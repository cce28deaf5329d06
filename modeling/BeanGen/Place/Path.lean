import BeanGen.Text.Slice

/-!
# Paths

A place in a file tree is the list of names on the way to it from the top. Path texts are resolved
without looking at any file: `.` and empty pieces vanish, and `..` takes the piece before it away.
-/

namespace BeanGen

/-- An absolute place: the names from the top of the tree down. -/
abbrev Place := List String

namespace Place

/-- The pieces of a path text between its slashes. Empty pieces and `.` name no step. -/
def pieces (path : String) : List String :=
  ((Text.splitOn '/' path.toList).map String.ofList).filter fun piece => piece != "" && piece != "."

/-- The path text starts at the top of the tree. -/
def isAbsoluteText (path : String) : Bool :=
  path.toList.head? == some '/'

/-- One step from a place: `..` leads up, any other name leads down. -/
def step (place : Place) (piece : String) : Place :=
  if piece = ".." then place.dropLast else place ++ [piece]

/-- The place that a path text denotes, seen from a working directory. -/
def resolve (workDir : Place) (path : String) : Place :=
  (pieces path).foldl step (if isAbsoluteText path then [] else workDir)

/-- The absolute path text of a place. -/
def text (place : Place) : String :=
  "/" ++ "/".intercalate place

/-- The slashes that a path text begins with, as far as they mean anything: two of them are kept,
more are the same as one. -/
def leadingSlashes (path : String) : String :=
  match path.toList with
  | '/' :: '/' :: '/' :: _ => "/"
  | '/' :: '/' :: _ => "//"
  | '/' :: _ => "/"
  | _ => ""

/-- The path text in its shortest form that leads the same way: no empty pieces and no `.`. -/
def tidy (path : String) : String :=
  let text := leadingSlashes path ++ "/".intercalate (pieces path)
  if text = "" then "." else text

/-- The last name of a path text. -/
def fileName (path : String) : String :=
  (pieces path).getLast?.getD ""

/-- A path text behind another one; an absolute one starts anew. -/
def joinText (front path : String) : String :=
  if isAbsoluteText path then path
  else if front.toList.getLast? = some '/' then front ++ path
  else front ++ "/" ++ path

/-- Path texts put behind each other. -/
def joinTexts (paths : List String) : String :=
  tidy (paths.foldl joinText ".")

/-- What leads from `base` down to the place, if it lies in `base`. -/
def relativeTo? (base place : Place) : Option (List String) :=
  if base.isPrefixOf place then some (place.drop base.length) else none

/-- The longest common beginning of two places. -/
def commonWith : Place → Place → Place
  | a :: as, b :: bs => if a = b then a :: commonWith as bs else []
  | _, _ => []

end Place

end BeanGen
