import BeanGen.Place.FileTree

/-!
# Commands

The program has two commands: one generates the source files, the other only writes the document of
the declarations. Both take roots, and options with a path behind them.
-/

namespace BeanGen.CommandLine

/-- What a path may lead to. It may also lead nowhere. -/
inductive PathKind where
  | directory
  | file
  deriving DecidableEq, Repr

namespace PathKind

/-- The kind as the subject of a sentence. -/
def title : PathKind → String
  | directory => "Directory"
  | file => "File"

/-- What is found instead, as the end of a sentence. -/
def contrary : PathKind → String
  | directory => "is a file"
  | file => "is a directory"

/-- This is of the kind. -/
def admits : PathKind → FileTree → Bool
  | directory, found => found.isDir
  | file, found => !found.isDir

end PathKind

/-- An option with a path behind it. -/
structure PathOption where
  long : String
  short : Option Char
  kind : PathKind
  required : Bool
  deriving DecidableEq, Repr

/-- The names of the option, as messages list them. -/
def PathOption.label (option : PathOption) : String :=
  let names := option.long :: option.short.toList.map fun c => String.ofList ['-', c]
  " / ".intercalate (names.map fun name => "'" ++ name ++ "'")

/-- The configuration. -/
def configOption : PathOption := ⟨"--config", some 'c', .file, false⟩

/-- Where the source files go. -/
def outputOption : PathOption := ⟨"--output", some 'o', .directory, false⟩

/-- Where the document of the declarations goes when source files are generated. -/
def modelOption : PathOption := ⟨"--model-file", none, .file, false⟩

/-- Where the document of the declarations goes when nothing else is written. -/
def documentOption : PathOption := ⟨"--output", some 'o', .file, true⟩

/-- The option that asks for help. -/
def helpFlag : String := "--help"

/-- What the program is told to do. -/
inductive Command where
  /-- Generate the source files. -/
  | generate
  /-- Write the document of the declarations. -/
  | dumpModel
  deriving DecidableEq, Repr

namespace Command

/-- Every command. -/
def all : List Command := [generate, dumpModel]

/-- The word for the command. -/
def name : Command → String
  | generate => "generate"
  | dumpModel => "dump-model"

/-- The options with a path. -/
def options : Command → List PathOption
  | generate => [outputOption, configOption, modelOption]
  | dumpModel => [documentOption, configOption]

/-- The options that stand alone. -/
def flags (_ : Command) : List String := ["--debug", helpFlag]

/-- The command with a name. -/
def ofName? (name : String) : Option Command := all.find? (·.name = name)

end Command

end BeanGen.CommandLine
