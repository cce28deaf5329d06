import BeanGen.Place.FileTree
import BeanGen.Place.IgnoreRules
import BeanGen.Place.Roots
import BeanGen.Run.Failure
import BeanGen.Script.Items
import BeanGen.Text.Lines

/-!
# Source files

Source files are found below the roots, in a fixed order: the files of a directory by name, then its
subdirectories by name. Directories of tools and results are not entered, and a root may hold a file
with further rules on what to ignore.
-/

namespace BeanGen

/-- The names of directories that are never entered. -/
def defaultIgnored : List String :=
  [".git", "node_modules", "__pycache__", ".venv", "venv", "dist", "build", "coverage"]

/-- The name of the file with ignore rules. -/
def ignoreFile : String := ".gitignore"

/-- The name of a source file: a script, but no file of declarations only. -/
def isSourceName (name : String) : Bool :=
  ".ts".toList.isSuffixOf name.toList && !".d.ts".toList.isSuffixOf name.toList

/-- The path below a root is left out. -/
def isLeftOut (rules : List IgnoreRule) (isDir : Bool) (path : List String) : Bool :=
  path.any defaultIgnored.contains ||
    IgnoreRule.ignored rules (("/".intercalate path).toList ++ if isDir then ['/'] else [])

/-- The source files below a directory whose path from the root is `at_`. -/
def sourcesBelow (rules : List IgnoreRule) (at_ : List String) : FileTree → List (List String)
  | .file _ => []
  | .dir entries =>
    let found := entries.map fun entry =>
      (entry.1, entry.2.isDir, sourcesBelow rules (at_ ++ [entry.1]) entry.2)
    let sorted := (found.mergeSort fun a b => decide (a.1 ≤ b.1)).filter fun entry =>
      !isLeftOut rules entry.2.1 (at_ ++ [entry.1])
    (sorted.filter fun entry => !entry.2.1 && isSourceName entry.1).map (fun entry =>
        at_ ++ [entry.1]) ++
      (sorted.filter (·.2.1)).flatMap (·.2.2)
termination_by tree => tree
decreasing_by
  have := List.sizeOf_lt_of_mem ‹entry ∈ entries›
  rcases entry with ⟨name, tree⟩
  simp at this ⊢
  omega

/-- The ignore rules of a root. -/
def ignoreRules (root : FileTree) : Except Failure (List IgnoreRule) :=
  match root.get? [ignoreFile] with
  | some (.file content) =>
    match Text.decode? content with
    | some text => (IgnoreRule.ofLines (Text.lines text.toList)).mapError .ignoreRuleMalformed
    | none => .error .undecodable
  | _ => .ok []

/-- The source files below a root. -/
def sourcesOf (tree : FileTree) (root : Place) : Except Failure (List Place) :=
  match tree.get? root with
  | some (.dir entries) => do
    let rules ← ignoreRules (.dir entries)
    return (sourcesBelow rules [] (.dir entries)).map (root ++ ·)
  | _ => .error (.rootMissing root)

/-- The source files below all roots, root by root, none of them twice. -/
def sourcePlaces (tree : FileTree) (roots : List Place) : Except Failure (List Place) := do
  let found ← roots.mapM (sourcesOf tree)
  return found.flatten.foldl
    (fun places place => if places.contains place then places else places ++ [place]) []

/-- The declarations of a source file; nothing if it is not in UTF-8. -/
def readSource (tree : FileTree) (workDir : Place) (path : String) :
    Except Failure (Option Source.File) :=
  match tree.find? workDir path with
  | some (.file content) => .ok ((Text.decode? content).map (Script.parse path))
  | _ => .error (.sourceUnreadable path)

/-- The declarations of source files, in their order. -/
def readSources (tree : FileTree) (workDir : Place) (paths : List String) :
    Except Failure Source.Files := do
  return (← paths.mapM (readSource tree workDir)).filterMap id

end BeanGen
