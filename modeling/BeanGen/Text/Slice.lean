/-!
# Cutting and joining text

Plain operations on lists of characters that the readers and writers share.
-/

namespace BeanGen.Text

/-- The pieces between the separators; there is one more piece than there are separators. -/
def splitOn (sep : Char) : List Char → List (List Char)
  | [] => [[]]
  | c :: cs =>
    if c = sep then [] :: splitOn sep cs
    else match splitOn sep cs with
      | [] => [[c]]
      | piece :: rest => (c :: piece) :: rest

/-- The text before the first occurrence of `sep`: all of it if there is none. -/
def before (sep : Char) (cs : List Char) : List Char :=
  cs.takeWhile (· != sep)

/-- The text after the last occurrence of `sep`: all of it if there is none. -/
def afterLast (sep : Char) (cs : List Char) : List Char :=
  (cs.reverse.takeWhile (· != sep)).reverse

/-- `needle` occurs in the text. -/
def hasInfix (needle : List Char) : List Char → Bool
  | [] => needle.isEmpty
  | c :: cs => needle.isPrefixOf (c :: cs) || hasInfix needle cs

/-- The text before the first occurrence of `needle`, if it occurs. -/
def beforeInfix? (needle : List Char) : List Char → Option (List Char)
  | [] => if needle.isEmpty then some [] else none
  | c :: cs =>
    if needle.isPrefixOf (c :: cs) then some []
    else (beforeInfix? needle cs).map (c :: ·)

/-- Every `old` becomes `new`. -/
def replaceChar (old new : Char) (cs : List Char) : List Char :=
  cs.map fun c => if c = old then new else c

/-- The pieces with `sep` between them. -/
def joinWith (sep : String) (pieces : List String) : String :=
  sep.intercalate pieces

/-- Removes the first of the characters, and the last, if they are one and the same quotation mark
out of `marks`. -/
def unquote (marks : List Char) (cs : List Char) : List Char :=
  match cs with
  | c :: rest =>
    if 2 ≤ cs.length && marks.contains c && rest.getLast? == some c then rest.dropLast else cs
  | [] => []

end BeanGen.Text
