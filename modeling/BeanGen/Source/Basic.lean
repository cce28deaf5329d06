import BeanGen.Count

/-!
# Parsed declarations

What is read from the source files: interfaces, classes, enums and type aliases, file by file. Types
are kept as the text that was written.
-/

namespace BeanGen.Source

/-- A member with a type, of an interface, a class or an object type. -/
structure Property where
  name : String
  type : String
  optional : Bool := false
  /-- `public`, `protected` or `private`, if written. -/
  visibility : Option String := none
  /-- The comment behind the member on its line. -/
  comment : Option String := none
  /-- The Java type that the comment asks for. -/
  typeHint : Option String := none
  /-- The members of the type, if it is an object type. -/
  members : Option (List Property) := none
  deriving Repr, Inhabited

/-- An interface with the names it extends. -/
structure Interface where
  name : String
  bases : List String := []
  properties : List Property := []
  deriving Repr, Inhabited

/-- A class with its base and the names it implements. -/
structure Class where
  name : String
  base : Option String := none
  implements : List String := []
  properties : List Property := []
  deriving Repr, Inhabited

/-- An enum constant with its value as written, without the quotes of a string. -/
structure EnumMember where
  name : String
  value : Option String := none
  deriving DecidableEq, Repr, Inhabited

/-- An enum. -/
structure Enum where
  name : String
  members : List EnumMember := []
  deriving DecidableEq, Repr, Inhabited

/-- A type alias. The properties are those of the target, if it is an object type. -/
structure Alias where
  name : String
  target : Option String := none
  properties : Option (List Property) := none
  deriving Repr, Inhabited

/-- The declarations of one file, and the modules it imports. -/
structure File where
  path : String
  imports : List String := []
  interfaces : List Interface := []
  classes : List Class := []
  enums : List Enum := []
  aliases : List Alias := []
  deriving Repr, Inhabited

/-- How many declarations the file has. -/
def File.declarationCount (file : File) : Nat :=
  file.interfaces.length + file.classes.length + file.enums.length + file.aliases.length

/-- The file without the declarations that have one of the names. -/
def File.withoutNames (names : List String) (file : File) : File :=
  { file with
    interfaces := file.interfaces.filter fun decl => !names.contains decl.name
    classes := file.classes.filter fun decl => !names.contains decl.name
    enums := file.enums.filter fun decl => !names.contains decl.name
    aliases := file.aliases.filter fun decl => !names.contains decl.name }

/-- All files of a run, in the order they are read. -/
abbrev Files := List File

/-- How many declarations the files have. -/
def Files.declarationCount (files : Files) : Nat :=
  total (files.map File.declarationCount)

end BeanGen.Source
