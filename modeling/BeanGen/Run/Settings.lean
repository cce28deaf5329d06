import BeanGen.Config.Validation
import BeanGen.Place.FileTree
import BeanGen.Run.Failure
import BeanGen.Text.Lines
import BeanGen.Yaml.Meaning

/-!
# Reading the configuration

A configuration is a YAML document with a mapping. A file that does not exist, an empty document and
keys without a value stand for the defaults.
-/

namespace BeanGen

open Config (Value)

/-- An entry of the configuration that has a value. -/
def isSet (entry : Value × Value) : Bool :=
  match entry.2 with
  | .null => false
  | _ => true

/-- The configuration in a document. `path` is named in failures. -/
def Config.ofDocument (path text : String) : Except Failure Config :=
  match Yaml.load? text with
  | none => .error (.configUnreadable path)
  | some .null => .ok {}
  | some (.mapping entries) =>
    match Config.validate (entries.filter isSet) with
    | .ok config => .ok config
    | .error errors => .error (.configInvalid path errors)
  | some _ => .error (.configNoMapping path)

/-- The configuration at a path; the defaults if nothing is there. -/
def Config.load (tree : FileTree) (workDir : Place) (path : String) : Except Failure Config :=
  match tree.find? workDir path with
  | none => .ok {}
  | some (.dir _) => .error (.configUnreadable path)
  | some (.file content) =>
    match Text.decode? content with
    | some text => Config.ofDocument path text
    | none => .error .undecodable

end BeanGen
