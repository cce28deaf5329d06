import BeanGen.Config.Validation
import BeanGen.Place.Path
import BeanGen.Text.Shown

/-!
# Failures of a run

What stops a run: a configuration that cannot be used, sources that cannot be read, and files that
cannot be written. Everything else is settled on the way.
-/

namespace BeanGen

/-- Why a run stopped. -/
inductive Failure where
  /-- The configuration is no document, or no file. -/
  | configUnreadable (path : String)
  /-- The configuration is a document of another kind. -/
  | configNoMapping (path : String)
  /-- Values of the configuration have the wrong shape. -/
  | configInvalid (path : String) (errors : Nat)
  /-- A root is no directory. -/
  | rootMissing (root : Place)
  /-- A source file cannot be read. -/
  | sourceUnreadable (path : String)
  /-- A generated file cannot be written. -/
  | outputUnwritable (path : String)
  /-- The document of the declarations cannot be written. -/
  | modelUnwritable (path : String)
  /-- A file with rules is not in UTF-8. -/
  | undecodable
  /-- A line of an ignore file holds no pattern. -/
  | ignoreRuleMalformed (line : String)
  /-- A path to write to has a null character. -/
  | pathMalformed
  deriving DecidableEq, Repr

/-- What is said of a failure. -/
def Failure.message : Failure → String
  | configUnreadable path => "Failed to load config file '" ++ path ++ "'"
  | configNoMapping path => "Config file '" ++ path ++ "' must contain a mapping at top level"
  | configInvalid path errors =>
    "Invalid config file '" ++ path ++ "': " ++ Config.rejection errors
  | rootMissing root => "Source directory does not exist: " ++ root.text
  | sourceUnreadable path => "Cannot read " ++ path
  | outputUnwritable path => "Cannot write " ++ path
  | modelUnwritable path => "Cannot write model file " ++ path
  | undecodable => ""
  | ignoreRuleMalformed line => "Invalid git pattern: " ++ Text.shown line
  | pathMalformed => "embedded null byte"

/-- A failure that the program reports. The others stop it without a word. -/
def Failure.isReported : Failure → Bool
  | undecodable | ignoreRuleMalformed _ | pathMalformed => false
  | _ => true

end BeanGen
