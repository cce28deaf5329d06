import BeanGen.Text.Blank
import BeanGen.Text.Slice

/-!
# Type hints

A line comment behind a member may ask for a particular Java type: `// javaType: int`. The word may
be written in any case, a colon or an equals sign follows it, and the type goes up to the next white
space outside angle brackets or to another `//`.
-/

namespace BeanGen.Script

open Text

/-- The text behind `marker`, if the text begins with it in any case of its ASCII letters. The marker
is in lower case. -/
def afterMarker? : List Char → List Char → Option (List Char)
  | [], cs => some cs
  | _ :: _, [] => none
  | m :: marker, c :: cs => if c.toLower = m then afterMarker? marker cs else none

/-- What follows the marker and its separator, if the text begins with them. -/
def hintBehind? (cs : List Char) : Option (List Char) :=
  (afterMarker? "javatype".toList cs).bind fun rest =>
    match trimStart rest with
    | c :: rest => if c = ':' ∨ c = '=' then some (trimStart rest) else none
    | [] => none

/-- What follows the first marker with a separator in the text. -/
def findHint? : List Char → Option (List Char)
  | [] => none
  | c :: cs => (hintBehind? (c :: cs)).or (findHint? cs)

/-- The text up to the first white space outside angle brackets. A closing bracket without an opening
one leaves the outside, too. -/
def upToBlank (depth : Int) : List Char → List Char
  | [] => []
  | c :: cs =>
    if c = '<' then c :: upToBlank (depth + 1) cs
    else if c = '>' then c :: upToBlank (depth - 1) cs
    else if isBlank c && depth == 0 then []
    else c :: upToBlank depth cs

/-- The text without the characters `c` at its end. -/
def dropTrailing (c : Char) (cs : List Char) : List Char :=
  (cs.reverse.dropWhile (· == c)).reverse

/-- The type that a hint text names. -/
def hintType (cs : List Char) : List Char :=
  let upToComment := (beforeInfix? ['/', '/'] cs).getD cs
  upToBlank 0 (trim (dropTrailing ';' (trim upToComment)))

/-- The Java type that a comment asks for. Only line comments can. -/
def typeHint? (comment : String) : Option String :=
  if "//".toList.isPrefixOf (trimStart comment.toList) then
    match (findHint? comment.toList).map hintType with
    | some (c :: cs) => some (String.ofList (c :: cs))
    | _ => none
  else none

end BeanGen.Script
