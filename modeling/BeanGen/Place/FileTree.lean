import BeanGen.Place.Path

/-!
# File trees

A file tree holds files with their bytes and directories with named entries. Reading finds what is at
a place; writing a file makes the directories above it. Writing fails where a file is in the way of a
directory or a directory in the way of the file, and for paths and names that are too long.
-/

namespace BeanGen

/-- A file with its bytes, or a directory with its entries. -/
inductive FileTree where
  | file (content : ByteArray)
  | dir (entries : List (String × FileTree))

namespace FileTree

/-- The directory without entries. -/
def empty : FileTree := dir []

instance : Inhabited FileTree := ⟨empty⟩

/-- The entries of a directory. A file has none. -/
def entries : FileTree → List (String × FileTree)
  | file _ => []
  | dir entries => entries

/-- This is a directory. -/
def isDir : FileTree → Bool
  | file _ => false
  | dir _ => true

/-- What is at a place. -/
def get? : FileTree → Place → Option FileTree
  | tree, [] => some tree
  | tree, name :: place => (tree.entries.lookup name).bind (get? · place)

/-- There is a directory at the place. -/
def isDirAt (tree : FileTree) (place : Place) : Bool :=
  (tree.get? place).any isDir

/-- There is a file at the place. -/
def isFileAt (tree : FileTree) (place : Place) : Bool :=
  (tree.get? place).any (!·.isDir)

/-- Where the steps of a path lead. Every step starts from a directory. -/
def walk? (tree : FileTree) : Place → List String → Option Place
  | place, [] => some place
  | place, piece :: pieces =>
    if tree.isDirAt place then walk? tree (Place.step place piece) pieces else none

/-- The path text asks for a directory: it ends with a slash or with `.`. -/
def asksForDir (path : String) : Bool :=
  match (Text.splitOn '/' path.toList).getLast? with
  | some last => last == [] || last == ['.']
  | none => false

/-- What a path text leads to from a working directory. The empty text leads nowhere. -/
def find? (tree : FileTree) (workDir : Place) (path : String) : Option FileTree :=
  if path = "" then none
  else
    let start := if Place.isAbsoluteText path then [] else workDir
    let found := (tree.walk? start (Place.pieces path)).bind tree.get?
    if asksForDir path then found.filter isDir else found

/-- Why a file cannot be written. -/
inductive Obstacle where
  /-- A file is where a directory has to be. -/
  | notDirectory
  /-- A directory is where the file has to be. -/
  | isDirectory
  /-- A name on the way has more bytes than an entry can have. -/
  | nameTooLong
  /-- The path has more bytes than a path can have. -/
  | pathTooLong
  /-- The path has a null character, which no path can have. -/
  | nullCharacter
  deriving DecidableEq, Repr

/-- The most bytes that the name of an entry can have. -/
def maxNameBytes : Nat := 255

/-- The most bytes that a path can have. -/
def maxPathBytes : Nat := 4095

/-- Entries with one of them replaced in place, or with a new entry at the end. -/
def setEntry (name : String) (tree : FileTree) : List (String × FileTree) → List (String × FileTree)
  | [] => [(name, tree)]
  | entry :: rest =>
    if entry.1 = name then (name, tree) :: rest else entry :: setEntry name tree rest

/-- Writes a file at a place; directories that are missing on the way are made. -/
def write : FileTree → Place → ByteArray → Except Obstacle FileTree
  | file _, [], content => .ok (file content)
  | dir _, [], _ => .error .isDirectory
  | file _, _ :: _, _ => .error .notDirectory
  | dir entries, name :: place, content => do
    let before := (entries.lookup name).getD (if place.isEmpty then file content else empty)
    let after ← write before place content
    return dir (setEntry name after entries)

/-- Makes a directory at a place, as far as no file is in the way. -/
def makeDir : FileTree → Place → FileTree
  | tree, [] => tree
  | file content, _ :: _ => file content
  | dir entries, name :: place =>
    dir (setEntry name (makeDir ((entries.lookup name).getD empty) place) entries)

/-- The places that a path goes through: its directories, and last what it denotes. -/
def stations : Place → List String → List Place
  | place, [] => [place]
  | place, piece :: pieces => place :: stations (Place.step place piece) pieces

/-- Writes a file at a path seen from a working directory. A file on the way is an obstacle even if
the path turns back from it. -/
def writeAt (tree : FileTree) (workDir : Place) (path : String) (content : ByteArray) :
    Except Obstacle FileTree :=
  let start := if Place.isAbsoluteText path then [] else workDir
  let pieces := Place.pieces path
  if path.toList.contains '\x00' then .error .nullCharacter
  else if maxPathBytes < path.utf8ByteSize then .error .pathTooLong
  else if pieces.any (maxNameBytes < ·.utf8ByteSize) then .error .nameTooLong
  else if (stations start pieces).dropLast.any tree.isFileAt then .error .notDirectory
  else tree.write (Place.resolve workDir path) content

/-- Every file in the tree with its place, in the order of the entries. -/
def files : FileTree → List (Place × ByteArray)
  | file content => [([], content)]
  | dir entries =>
    entries.flatMap fun entry =>
      entry.2.files.map fun found => (entry.1 :: found.1, found.2)
termination_by tree => tree
decreasing_by
  have := List.sizeOf_lt_of_mem ‹entry ∈ entries›
  rcases entry with ⟨name, tree⟩
  simp at this ⊢
  omega

end FileTree

end BeanGen
