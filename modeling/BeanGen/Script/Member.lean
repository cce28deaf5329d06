import BeanGen.Script.Hint
import BeanGen.Script.Signature
import BeanGen.Text.Blank
import BeanGen.Text.Slice

/-!
# Members

Members of object types, which are those of interfaces, too. Of all members, properties with a name and
a type are kept; signatures, index signatures and properties without a type are only passed over. A
member ends with a separator, or with its line.
-/

namespace BeanGen.Script

open Source (Property)

/-! ## Names and modifiers -/

/-- The quotation marks that a name or a value can stand in. -/
def quotationMarks : List Char := ['\'', '"', '\x60']

/-- A name without its quotation marks. -/
def plainName (text : List Char) : String :=
  String.ofList (Text.unquote quotationMarks text)

/-- The name of a member can begin here. -/
def beginsMemberName (cs : List Char) : Bool :=
  nameLength cs != 0 || numberLength cs != 0 || atAnyMark ["\"", "'", "#", "["] cs

/-- The name of a member as it is written, and what follows it. A computed name is no name. -/
def memberName? (reader : Reader) (cs : List Char) :
    Option (Option (List Char) × List Char) :=
  let cs := skip cs
  match (word? cs).or (privateName? cs) with
  | some (name, rest) => some (some name, rest)
  | none =>
    match (string? cs).or (number? cs) with
    | some rest => some (some (textBefore rest cs), rest)
    | none => do
      let inner ← mark? "[" cs
      let rest ← nextMark? "]" (← reader.expression? .operand inner)
      return (none, rest)

/-- What follows the word, if it is one of the words and qualifies the member whose name or next
modifier follows. A word that can end a member by itself is the name of that member. -/
def modifier? (follow : Follow) (words : List String) (cs : List Char) : Option (List Char) := do
  let rest ← anyKeyword? words (skip cs)
  let here := ahead follow rest
  if beginsMemberName here || atMark "*" here then some rest else none

/-- What follows modifiers out of the words, or the whole text if it begins with none. They have to
stand in the order of the words. -/
def skipModifiers (follow : Follow) (words : List String) (cs : List Char) : List Char :=
  words.foldl (fun cs word => (modifier? follow [word] cs).getD cs) cs

/-- The word at the beginning of the text if it says from where the member can be used, and what
follows it. -/
def takeVisibility (cs : List Char) : Option String × List Char :=
  match modifier? .line visibilities cs with
  | some rest => ((word? (skip cs)).map fun (word, _) => String.ofList word, rest)
  | none => (none, cs)

/-- What follows the modifiers that only methods have, if there are any. -/
def methodModifiers? (follow : Follow) (cs : List Char) : Option (List Char) :=
  let async := modifier? follow ["async"] cs
  let rest := async.getD cs
  let named := if async.isSome then .bracketed else follow
  ((modifier? named ["get", "set"] rest).or (nextMark? "*" rest)).or async

/-! ## Properties -/

/-- The comment on the line on which a member ends, behind the separators that follow it. -/
def trailingComment? : List Char → Option (List Char)
  | [] => none
  | c :: cs =>
    if c = '\n' then none
    else if isSpace c || c == ';' || c == ',' then trailingComment? cs
    else match commentLength (c :: cs) with
      | 0 => none
      | length => some ((c :: cs).take length)

/-- A property with its type, which begins behind the colon at `start`. A comment in front of the type
stands in its place. Types from another module are not kept, and neither are constants. -/
def property? (visibility : Option String) (name : List Char) (optional : Bool) (start : List Char)
    (type : Reading) (behind : List Char) : Option Property :=
  let comment := firstComment? start
  let written := textBefore type.rest (skip start)
  let text := Text.trim (comment.getD written)
  if Text.hasInfix "import(".toList text || (comment.isNone && written == "const".toList) then none
  else
    let note := (trailingComment? behind).map fun text => String.ofList (Text.trim text)
    some
      { name := plainName name
        type := String.ofList text
        optional := optional
        visibility := visibility
        comment := note
        typeHint := note.bind typeHint?
        members := if comment.isSome then none else type.members }

/-! ## Index signatures -/

/-- What follows the type of an index signature behind its bracket. -/
def indexedMember? (reader : Reader) (cs : List Char) : Option (List Char) := do
  let cs := skip cs
  let type ← ["?:", "-?:", "+?:", ":"].findSome? (mark? · cs)
  reader.type? .line type

/-- What follows an index signature or a mapped member. -/
def indexSignature? (reader : Reader) (cs : List Char) : Option (List Char) := do
  let sign := (nextMark? "+" cs).or (nextMark? "-" cs)
  let cs ← match nextKeyword? "readonly" (sign.getD cs) with
    | some rest => some rest
    | none => if sign.isSome then none else some cs
  let (_, rest) ← nextWord? (← nextMark? "[" cs)
  let rest ← match nextMark? ":" rest with
    | some key => reader.type? .bracketed key
    | none => do
      let keys ← reader.type? .bracketed (← nextKeyword? "in" rest)
      match nextKeyword? "as" keys with
      | some key => reader.type? .bracketed key
      | none => some keys
  indexedMember? reader (← nextMark? "]" rest)

/-! ## Members of object types -/

/-- A member from its name on: a property, or a method, of which nothing is kept. -/
def namedMember? (reader : Reader) (visibility : Option String) (cs : List Char) :
    Option (Option Property × List Char) := do
  let (name, rest) ← memberName? reader cs
  let optional := atMark "?" (ahead .line rest)
  let rest := if optional then skipMark "?" rest else rest
  match ahead .line rest with
  | ':' :: start => do
    let type ← reader.read (.type .line) start
    return (name.bind fun name => property? visibility name optional start type type.rest, type.rest)
  | '(' :: _ => (signature? reader .line rest).map (none, ·)
  | '<' :: _ => (signature? reader .line rest).map (none, ·)
  | _ => some (none, rest)

/-- A signature without a name: of the object itself, or of its construction. -/
def namelessMember? (reader : Reader) (cs : List Char) : Option (List Char) :=
  let cs := skip cs
  let signed (cs : List Char) : Option (List Char) :=
    if atAnyMark ["(", "<"] (skip cs) then signature? reader .line cs else none
  (signed cs).or <| do signed (← keyword? "new" ((nextKeyword? "abstract" cs).map skip |>.getD cs))

/-- The text begins with an export, and not with a member of this name. -/
def atExport (cs : List Char) : Bool :=
  atMark "@" (skip cs) || (nextKeyword? "export" cs).any fun rest =>
    let here := ahead .line rest
    nameLength here != 0 || atAnyMark ["\x7b", "*", "=", "@"] here

/-- A member of an object type. -/
def member? (reader : Reader) (cs : List Char) : Option (Option Property × List Char) :=
  match (namelessMember? reader cs).or (indexSignature? reader cs) with
  | some rest => some (none, rest)
  | none =>
    if atKeyword "abstract" (skip cs) then none
    else if atExport cs then (reader.rest? .statement cs).map (none, ·)
    else
      let (visibility, cs) := takeVisibility cs
      let cs := skipModifiers .line ["static", "override", "readonly"] cs
      match methodModifiers? .line cs with
      | none => namedMember? reader visibility cs
      | some method => do
        let (_, rest) ← memberName? reader method
        return (none, ← signature? reader .line (skipMark "?" rest))

/-- The mark that closes an object type. -/
def closesObject? (cs : List Char) : Option (List Char) :=
  (nextMark? "\x7d" cs).or (nextMark? "|\x7d" cs)

/-- What follows a member and its separator, which may be left out in front of the closing mark. -/
def separated? (cs : List Char) : Option (List Char) :=
  match ahead .line cs with
  | [] => some cs
  | ',' :: rest => some rest
  | ';' :: rest => some rest
  | here => (closesObject? here).map fun _ => here

/-- The properties among the members up to the closing mark, and what follows it. `earlier` are the
properties that were read before, the last one first. -/
def members? (reader : Reader) : Nat → List Property → List Char → Option (List Property × List Char)
  | 0, _, _ => none
  | steps + 1, earlier, cs => do
    let (property, rest) ← member? reader cs
    let properties := (whole? property rest cs).toList ++ earlier
    let rest ← separated? rest
    match closesObject? rest with
    | some rest => return (properties.reverse, rest)
    | none => members? reader steps properties rest

/-- An object type with its properties. A separator may stand in front of the first member. -/
def objectType? (reader : Reader) (cs : List Char) : Option Reading := do
  let inner ← (nextMark? "\x7b|" cs).or (nextMark? "\x7b" cs)
  match closesObject? inner with
  | some rest => return { rest, members := some [] }
  | none =>
    let first := ((nextMark? "," inner).or (nextMark? ";" inner)).getD inner
    let (properties, rest) ← members? reader reader.steps [] first
    return { rest, members := some properties }

end BeanGen.Script
