/-!
# JSON documents

The parsed declarations can be written to a JSON document and read back. Objects keep the order of
their keys. The document is indented by two spaces and holds ASCII only: any other character is
written by its UTF-16 code units.
-/

namespace BeanGen

/-- A JSON value without fractions. -/
inductive Json where
  | null
  | bool (value : Bool)
  | int (value : Int)
  | str (value : String)
  | arr (items : List Json)
  | obj (entries : List (String × Json))
  deriving Repr, Inhabited

namespace Json

/-- One hexadecimal digit. -/
def hexDigit (n : Nat) : Char :=
  if n < 10 then Char.ofNat (0x30 + n) else Char.ofNat (0x61 + (n - 10))

/-- Four hexadecimal digits of a code unit behind `\u`. -/
def escapeUnit (n : Nat) : List Char :=
  ['\\', 'u', hexDigit (n / 0x1000 % 16), hexDigit (n / 0x100 % 16), hexDigit (n / 0x10 % 16),
   hexDigit (n % 16)]

/-- How a character stands in a JSON string. -/
def escapeChar (c : Char) : List Char :=
  if c = '"' then ['\\', '"']
  else if c = '\\' then ['\\', '\\']
  else if c = '\n' then ['\\', 'n']
  else if c = '\r' then ['\\', 'r']
  else if c = '\t' then ['\\', 't']
  else if c.toNat = 0x08 then ['\\', 'b']
  else if c.toNat = 0x0c then ['\\', 'f']
  else if 0x20 ≤ c.toNat ∧ c.toNat ≤ 0x7e then [c]
  else if c.toNat < 0x10000 then escapeUnit c.toNat
  else
    let n := c.toNat - 0x10000
    escapeUnit (0xd800 + n / 0x400) ++ escapeUnit (0xdc00 + n % 0x400)

/-- A string in quotes. -/
def quote (s : String) : String :=
  String.ofList ('"' :: s.toList.flatMap escapeChar ++ ['"'])

/-- The start of a line at a depth. -/
def margin (depth : Nat) : String :=
  "\n" ++ String.ofList (List.replicate (2 * depth) ' ')

/-- The text of a value that stands at a depth. -/
def renderAt (depth : Nat) : Json → String
  | null => "null"
  | bool true => "true"
  | bool false => "false"
  | int n => toString n
  | str s => quote s
  | arr items =>
    let lines := items.map fun item => margin (depth + 1) ++ item.renderAt (depth + 1)
    if items.isEmpty then "[]" else "[" ++ ",".intercalate lines ++ margin depth ++ "]"
  | obj entries =>
    let lines := entries.map fun entry =>
      margin (depth + 1) ++ quote entry.1 ++ ": " ++ entry.2.renderAt (depth + 1)
    if entries.isEmpty then "\x7b\x7d"
    else "\x7b" ++ ",".intercalate lines ++ margin depth ++ "\x7d"
termination_by json => json
decreasing_by
  · have := List.sizeOf_lt_of_mem ‹item ∈ items›
    simp
    omega
  · have := List.sizeOf_lt_of_mem ‹entry ∈ entries›
    rcases entry with ⟨key, value⟩
    simp at this ⊢
    omega

/-- The text of a document. -/
def render (json : Json) : String :=
  json.renderAt 0

/-- The value of a key. -/
def get? (json : Json) (key : String) : Option Json :=
  match json with
  | obj entries => entries.lookup key
  | _ => none

/-- A string, if the value is one. -/
def str? : Json → Option String
  | str s => some s
  | _ => none

/-- A truth value, if the value is one. -/
def bool? : Json → Option Bool
  | bool b => some b
  | _ => none

/-- The elements of an array; no other value has any. -/
def elements : Json → List Json
  | arr items => items
  | _ => []

/-- A string or null. -/
def ofString? : Option String → Json
  | some s => str s
  | none => null

/-- An array of strings. -/
def ofStrings (items : List String) : Json :=
  arr (items.map str)

/-- The string under a key; nothing if it is absent or null. -/
def string? (json : Json) (key : String) : Option String :=
  (json.get? key).bind str?

/-- The strings of the array under a key. -/
def strings (json : Json) (key : String) : List String :=
  ((json.get? key).map elements |>.getD []).filterMap str?

/-- The elements of the array under a key. -/
def array (json : Json) (key : String) : List Json :=
  (json.get? key).map elements |>.getD []

end Json

end BeanGen
