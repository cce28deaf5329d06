import BeanGen.CommandLine.Session

/-!
# The program

Takes a picture of the files that a command line can reach, plans the session on the picture, and
writes what is planned.
-/

namespace BeanGen

/-- Files with a content that a run looks at. All others are there by name only. -/
def isLookedAt (name : String) : Bool :=
  isSourceName name || name == ignoreFile

/-- Adds a file to a picture. -/
def FileTree.withFile (tree : FileTree) (path : String) (content : ByteArray) : FileTree :=
  (tree.writeAt [] path content).toOption.getD tree

/-- Adds a directory with all that is in it to a picture. -/
partial def pictureDir (tree : FileTree) (path : String) : IO FileTree := do
  let top ← IO.currentDir
  let mut tree := tree.makeDir (Place.resolve [] path)
  for entry in ← (top / path).readDir do
    let below := path ++ "/" ++ entry.fileName
    if ← entry.path.isDir then
      unless defaultIgnored.contains entry.fileName do
        tree ← pictureDir tree below
    else
      let content ← if isLookedAt entry.fileName then IO.FS.readBinFile below else pure .empty
      tree := tree.withFile below content
  return tree

/-- Adds what is at a path to a picture. -/
def picture (tree : FileTree) (path : String) : IO FileTree := do
  let here ← IO.currentDir
  if ← (here / path).isDir then pictureDir tree path
  else if ← (here / path).pathExists then return tree.withFile path (← IO.FS.readBinFile path)
  else return tree

/-- The directory above a path. -/
def directoryText (workDir : Place) (path : String) : String :=
  Place.text (Place.resolve workDir path).dropLast

/-- Writes files one after the other up to the first that cannot be written. -/
def writeOutputs (workDir : Place) : List Output → IO (Option Failure)
  | [] => return none
  | output :: rest => do
    if output.path.toList.contains '\x00' then return some (output.failure .nullCharacter)
    try
      IO.FS.createDirAll (directoryText workDir output.path)
      IO.FS.writeFile (Place.text (Place.resolve workDir output.path)) output.text
    catch _ => return some output.unwritable
    writeOutputs workDir rest

/-- The paths that a word can stand for: itself, or what follows `=` or the letter of an option. -/
def pathsOfWord (word : String) : List String :=
  word :: (CommandLine.splitValue word).2.toList ++ [(word.drop 2).toString]

/-- Carries out a session and returns its exit code. -/
def carryOut (words : List String) : IO Nat := do
  let workDir := Place.resolve [] (← IO.currentDir).toString
  let names := ["TS2JAVA_CONFIG", "TS2JAVA_OUTPUT_DIR", "TS2JAVA_MODEL_FILE"]
  let environment ← names.filterMapM fun name => return (← IO.getEnv name).map (name, ·)
  let mentioned := "ts-to-java.yaml" :: words.flatMap pathsOfWord ++ environment.map (·.2)
  let places := (mentioned.filter (· != "")).map fun path => (Place.resolve workDir path).text
  let tree ← places.foldlM picture (FileTree.empty.makeDir workDir)
  let around : CommandLine.Surroundings := ⟨tree, workDir, environment⟩
  let failed ← match around.plan words with
    | .error refusal => pure (some refusal)
    | .ok plan => match ← writeOutputs workDir plan.outputs with
      | some failure => pure (some (CommandLine.Refusal.failed failure))
      | none => do
        IO.print plan.report
        pure none
  match failed with
  | none => return 0
  | some refusal =>
    IO.eprint refusal.text
    return refusal.exitCode

end BeanGen

/-- The command line. -/
def main (words : List String) : IO UInt32 := do
  return (← BeanGen.carryOut words).toUInt32
