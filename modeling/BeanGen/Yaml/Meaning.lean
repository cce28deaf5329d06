import BeanGen.Text.Base64
import BeanGen.Yaml.Node
import BeanGen.Yaml.Number
import BeanGen.Yaml.Timestamp

/-!
# The values of a document

A plain scalar without a tag may be null, a truth value, a number or a date by the way it is written;
anything else is text. A mapping takes the entries of the mappings that it merges, and a key that is
repeated keeps its first place and gets its last value. Collections cannot be keys.
-/

namespace BeanGen.Yaml

open Config (Value)

/-- The spellings of null. -/
def nullTexts : List String := ["", "~", "null", "Null", "NULL"]

/-- The spellings of the truth values. -/
def trueTexts : List String :=
  ["yes", "Yes", "YES", "true", "True", "TRUE", "on", "On", "ON"]

/-- The spellings of the truth value false. -/
def falseTexts : List String :=
  ["no", "No", "NO", "false", "False", "FALSE", "off", "Off", "OFF"]

/-- Where the standard tags are. -/
def standardTag (name : String) : String := "tag:yaml.org,2002:" ++ name

/-- The text without a line break at its end, unless it is nothing else. -/
def dropFinalBreak (cs : List Char) : List Char :=
  match cs.reverse with
  | '\n' :: c :: front => (c :: front).reverse
  | _ => cs

/-- The tag of a plain scalar by the way it is written. A line break at the end makes no difference. -/
def impliedTag (text : String) : String :=
  let cs := dropFinalBreak text.toList
  let line := String.ofList cs
  standardTag <|
    if nullTexts.contains line then "null"
    else if trueTexts.contains line || falseTexts.contains line then "bool"
    else if isInteger cs then "int"
    else if isFraction cs then "float"
    else if isTimestamp cs then "timestamp"
    else if line = "<<" then "merge"
    else if line = "=" then "value"
    else if ["!", "&", "*"].contains line then "yaml"
    else "str"

/-- The tag of a scalar, written or implied. -/
def scalarTag (tag : Option String) (plain : Bool) (text : String) : String :=
  tag.getD (if plain then impliedTag text else standardTag "str")

/-- The value of a scalar with a tag; nothing if there is none. -/
def scalarValue? (tag text : String) : Option Value :=
  if tag = standardTag "null" then some .null
  else if tag = standardTag "bool" then
    let text := text.toLower
    if trueTexts.contains text then some (.bool true)
    else if falseTexts.contains text then some (.bool false)
    else none
  else if tag = standardTag "int" then (integer? text).map .int
  else if tag = standardTag "float" then fraction? text
  else if tag = standardTag "timestamp" then (moment? (dropFinalBreak text.toList)).map .moment
  else if tag = standardTag "str" then some (.text text)
  else if tag = standardTag "binary" then
    if text.toList.all (·.toNat < 0x80) then (Text.Base64.decode? text.toList).map .bytes else none
  else none

/-- A value that can be a key. -/
def isKey : Value → Bool
  | .list _ | .mapping _ | .enclosing => false
  | _ => true

/-- The node is a scalar with a standard tag, written or implied. -/
def Node.hasTag (name : String) : Node → Bool
  | .scalar tag plain text => scalarTag tag plain text == standardTag name
  | _ => false

/-- A key that is the sign for a value is text. -/
def Node.asKey (node : Node) : Node :=
  match node with
  | .scalar _ plain text =>
    if node.hasTag "value" then .scalar (some (standardTag "str")) plain text else node
  | _ => node

/-- The text that a node stands for where a scalar is asked for: a mapping stands for the entry whose
key is the sign for a value. -/
def Node.scalarText? : Nat → Node → Option String
  | _, .scalar _ _ text => some text
  | fuel + 1, .mapping _ entries =>
    (entries.find? (·.1.hasTag "value")).bind fun entry => scalarText? fuel entry.2
  | _, _ => none

/-- The entries that a mapping takes over and its own, in this order. A mapping takes nothing over
from a node that is about to take over its entries; `inside` are the names of such nodes. -/
def Document.mergedEntries? (doc : Document) : Nat → List String → List (Node × Node) →
    Option (List (Node × Node))
  | 0, _, _ => none
  | fuel + 1, inside, entries => do
    let merged ← (entries.filter (·.1.hasTag "merge")).mapM fun entry =>
      match entry.2 with
      | .sequence _ items => do
        let each ← items.mapM (taken? fuel inside)
        return each.reverse.flatten
      | node => taken? fuel inside node
    let own := (entries.filter fun entry => !entry.1.hasTag "merge").map fun entry =>
      (entry.1.asKey, entry.2)
    return merged.flatten ++ own
where
  /-- The entries that are taken over from a node. -/
  taken? (fuel : Nat) (inside : List String) : Node → Option (List (Node × Node))
    | .mapping _ more => doc.mergedEntries? fuel inside more
    | .surrounding name =>
      if inside.contains name then some []
      else match doc.named.lookup name with
        | some (.mapping _ more) => doc.mergedEntries? fuel (name :: inside) more
        | _ => none
    | _ => none

/-- A mapping with one entry. -/
def Node.isPair : Node → Bool
  | .mapping _ [_] => true
  | _ => false

/-- The keys of a mapping as a list. -/
def keyList : Value → Value
  | .mapping entries => .list (entries.map (·.1))
  | value => value

/-- How deep a document that contains itself is unfolded. No configuration is looked at any deeper. -/
def unfoldingDepth : Nat := 3

/-- The value of a node; nothing if a tag or a key does not fit. A set is the list of its members, and
a pair is neither text nor mapping. `depth` is the number of collections around the node. -/
def Document.value? (doc : Document) : Nat → Nat → Node → Option Value
  | 0, _, _ => none
  | fuel + 1, depth, .surrounding name =>
    if depth < unfoldingDepth then (doc.named.lookup name).bind (value? doc fuel depth)
    else some .enclosing
  | _ + 1, _, .scalar tag plain text => scalarValue? (scalarTag tag plain text) text
  | fuel + 1, depth, .sequence tag items =>
    if tag.all (· == standardTag "seq") then do
      return .list (← items.mapM (value? doc fuel (depth + 1)))
    else if tag.all fun tag => tag == standardTag "omap" || tag == standardTag "pairs" then
      if items.all Node.isPair then do
        let _ ← items.mapM fun
          | .mapping _ entries => entries.mapM fun entry => do
              return (← value? doc fuel (depth + 1) entry.1, ← value? doc fuel (depth + 1) entry.2)
          | _ => none
        return .list (items.map fun _ => .pair)
      else none
    else none
  | fuel + 1, depth, .mapping tag entries =>
    match tag.filter fun tag => tag != standardTag "map" && tag != standardTag "set" with
    | some tag => (Node.scalarText? (fuel + 1) (.mapping none entries)).bind (scalarValue? tag)
    | none => do
      let entries ← doc.mergedEntries? (fuel + 1) [] entries
      let pairs ← entries.mapM fun entry => do
        let key ← value? doc fuel (depth + 1) entry.1
        let value ← value? doc fuel (depth + 1) entry.2
        if isKey key then some (key, value) else none
      return if tag = some (standardTag "set") then keyList (.ofPairs pairs) else .ofPairs pairs

/-- The value of a text: nothing if it breaks the rules, null if it is empty. -/
def load? (text : String) : Option Value := do
  match ← Document.ofText? text with
  | none => return .null
  | some doc => doc.value? (8 * (text.length + 1)) 0 doc.root

end BeanGen.Yaml
