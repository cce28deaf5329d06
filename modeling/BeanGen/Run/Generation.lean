import BeanGen.Bean.OfSource
import BeanGen.Refine.Pass
import BeanGen.Render.Unit
import BeanGen.Run.Sources
import BeanGen.Source.Document
import BeanGen.Source.Filter

/-!
# A run

A run reads the declarations below the roots, makes beans of them, refines them by the configuration
and writes a source file for each. The declarations can be written to a document, too. All that is to
be written is known before the first file is.
-/

namespace BeanGen

/-- A file to be written. -/
inductive Output where
  /-- The document of the declarations. -/
  | model (path text : String)
  /-- A generated source file. -/
  | source (path text : String)
  deriving DecidableEq, Repr

namespace Output

/-- Where the file goes. -/
def path : Output → String
  | model path _ => path
  | source path _ => path

/-- What is in the file. -/
def text : Output → String
  | model _ text => text
  | source _ text => text

/-- The failure of a file system that does not take the file. -/
def unwritable : Output → Failure
  | model path _ => .modelUnwritable path
  | source path _ => .outputUnwritable path

/-- The failure to write the file. A path that is none does not get as far as the file system. -/
def failure (output : Output) : FileTree.Obstacle → Failure
  | .nullCharacter => .pathMalformed
  | _ => output.unwritable

/-- This is a generated source file. -/
def isSource : Output → Bool
  | model .. => false
  | source .. => true

/-- Writes files one after the other up to the first that cannot be written. -/
def writeAll (workDir : Place) : FileTree → List Output → FileTree × Option Failure
  | tree, [] => (tree, none)
  | tree, output :: rest =>
    match tree.writeAt workDir output.path output.text.toUTF8 with
    | .ok tree => writeAll workDir tree rest
    | .error obstacle => (tree, some (output.failure obstacle))

end Output

/-- The declarations below the roots that the configuration does not leave out. -/
def declarations (config : Config) (roots : Roots) (tree : FileTree) :
    Except Failure Source.Files := do
  let places ← sourcePlaces tree roots.dirs
  let files ← readSources tree roots.workDir (places.map Place.text)
  return ((files.withoutExcluded config roots).1.withoutIgnored config).1

/-- The beans of declarations, refined by the configuration. -/
def refinedBeans (config : Config) (roots : Roots) (files : Source.Files) : Registry :=
  ((Registry.ofFiles files).link.1.refine config roots).1

/-- The source files of declarations below an output directory. -/
def sourceOutputs (config : Config) (roots : Roots) (outputDir : String) (files : Source.Files) :
    List Output :=
  ((Writer.of (refinedBeans config roots files) config).outputs outputDir).map fun (path, unit) =>
    .source path unit.text

/-- All that a run writes: the document of the declarations if a path is given for it, then the
source files. -/
def generate (config : Config) (roots : Roots) (tree : FileTree) (modelPath : Option String)
    (outputDir : String) : Except Failure (List Output) := do
  let files ← declarations config roots tree
  let model := modelPath.toList.map fun path => Output.model path files.document
  return model ++ sourceOutputs config roots outputDir files

/-- A whole run: the tree it leaves, and the files it wrote or why it stopped. -/
def run (config : Config) (roots : Roots) (tree : FileTree) (modelPath : Option String)
    (outputDir : String) : FileTree × Except Failure (List Output) :=
  match generate config roots tree modelPath outputDir with
  | .error failure => (tree, .error failure)
  | .ok outputs =>
    match Output.writeAll roots.workDir tree outputs with
    | (tree, none) => (tree, .ok outputs)
    | (tree, some failure) => (tree, .error failure)

/-- What a run writes that only reads the declarations. -/
def dumpModel (config : Config) (roots : Roots) (tree : FileTree) (path : String) :
    Except Failure (List Output) := do
  return [.model path (← declarations config roots tree).document]

end BeanGen
