/-!
# Java source files

The parts of a generated source file and its text. A file has a header comment that says where the
type comes from, the package, and one type declaration; classes may hold nested classes.
-/

namespace BeanGen.Java

/-- One step of indentation. -/
def indentStep : String := "    "

/-- Names set off by commas behind a keyword; nothing if there are none. -/
def clause (keyword : String) (names : List String) : String :=
  if names.isEmpty then "" else " " ++ keyword ++ " " ++ ", ".intercalate names

/-- The header comment. -/
structure Header where
  /-- The name of the file with the declaration. -/
  sourceFile : Option String
  /-- Keyword and name of the declaration. -/
  declared : String
  /-- Bases that were dropped. -/
  droppedBases : List String
  deriving DecidableEq, Repr

/-- The lines of the header comment. -/
def Header.lines (header : Header) : List String :=
  let source := header.sourceFile.toList.map (" * Source TS: " ++ ·)
  let note :=
    if header.droppedBases.isEmpty then []
    else [" * NOTE: Unresolved TS extends: " ++ ", ".intercalate header.droppedBases,
      " *       Consider mapping them via configuration 'interfaceExtendsMappings'."]
  ["/*"] ++ source ++ [" * Original TS: '" ++ header.declared ++ "'"] ++ note ++ [" */"]

/-- An enum constant with its constructor argument. -/
structure EnumEntry where
  name : String
  argument : String
  deriving DecidableEq, Repr

/-- The constants of an enum and what they carry: text, or a number. -/
structure EnumBody where
  textBacked : Bool
  entries : List EnumEntry
  deriving DecidableEq, Repr

/-- An enum declaration. Without a body it has no constants and no state. -/
structure EnumDecl where
  name : String
  interfaces : List String
  body : Option EnumBody
  deriving DecidableEq, Repr

/-- The lines of the constants: a comma behind each but the last, which has a semicolon. -/
def entryLines : List EnumEntry → List String
  | [] => [indentStep ++ ";"]
  | [entry] => [indentStep ++ entry.name ++ "(" ++ entry.argument ++ ");"]
  | entry :: next :: rest =>
    (indentStep ++ entry.name ++ "(" ++ entry.argument ++ "),") :: entryLines (next :: rest)

/-- The lines behind the constants: the state of a constant and its text. -/
def stateLines (name : String) (textBacked : Bool) : List String :=
  if textBacked then
    [indentStep ++ "private final String tsIndex;",
     indentStep ++ name ++ "(String tsIndex) \x7b this.tsIndex = tsIndex; \x7d",
     indentStep ++ "public String tsString() \x7b return this.tsIndex; \x7d"]
  else
    [indentStep ++ "private final int tsIndex;",
     indentStep ++ "private final String tsString;",
     indentStep ++ name ++
       "(int tsIndex) \x7b this.tsIndex = tsIndex; this.tsString = String.valueOf(tsIndex); \x7d",
     indentStep ++ "public String tsString() \x7b return this.tsString; \x7d"]

/-- The lines of an enum. -/
def EnumDecl.lines (decl : EnumDecl) : List String :=
  let body := match decl.body with
    | some body =>
      entryLines body.entries ++ ["", indentStep ++ "@lombok.Getter"] ++
        stateLines decl.name body.textBacked
    | none => []
  ["public enum " ++ decl.name ++ clause "implements" decl.interfaces ++ " \x7b"] ++ body ++ ["\x7d"]

/-- An accessor method of an interface. -/
structure Accessor where
  type : String
  name : String
  deriving DecidableEq, Repr

/-- An interface declaration. -/
structure InterfaceDecl where
  name : String
  bases : List String
  accessors : List Accessor
  deriving DecidableEq, Repr

/-- The lines of an interface. -/
def InterfaceDecl.lines (decl : InterfaceDecl) : List String :=
  ["public interface " ++ decl.name ++ clause "extends" decl.bases ++ " \x7b"] ++
    decl.accessors.map (fun accessor => indentStep ++ accessor.type ++ " " ++ accessor.name ++ "();") ++
    ["\x7d"]

/-- A field declaration. -/
structure FieldDecl where
  annotations : List String
  type : String
  name : String
  deriving DecidableEq, Repr

/-- The lines of a field at a margin. -/
def FieldDecl.lines (margin : String) (field : FieldDecl) : List String :=
  field.annotations.map (margin ++ ·) ++
    [margin ++ "private " ++ field.type ++ " " ++ field.name ++ ";"]

/-- A class declaration. `label` is the name of the field that a nested class was made for. -/
inductive ClassDecl where
  | mk (annotations : List String) (name : String) (base : Option String)
      (interfaces : List String) (fields : List FieldDecl) (nested : List (String × ClassDecl))
  deriving Repr

/-- The lines of a class. Nested classes are static. -/
def ClassDecl.lines (margin : String) : ClassDecl → List String
  | mk annotations name base interfaces fields nested =>
    let inner := margin ++ indentStep
    let modifiers := if margin = "" then "public " else "public static "
    let head := margin ++ modifiers ++ "class " ++ name ++ clause "extends" base.toList ++
      clause "implements" interfaces ++ " \x7b"
    annotations.map (margin ++ ·) ++ [head] ++ fields.flatMap (FieldDecl.lines inner) ++
      nested.flatMap (fun entry =>
        ["", inner ++ "/* Nested helper for inline '" ++ entry.1 ++ "' */"] ++
          entry.2.lines inner) ++
      [margin ++ "\x7d"]
termination_by decl => decl
decreasing_by
  have := List.sizeOf_lt_of_mem ‹entry ∈ nested›
  rcases entry with ⟨label, decl⟩
  simp at this ⊢
  omega

/-- The one type that a file declares. -/
inductive TypeDecl where
  | ofClass (decl : ClassDecl)
  | ofInterface (decl : InterfaceDecl)
  | ofEnum (decl : EnumDecl)
  deriving Repr

/-- The lines of a type declaration. -/
def TypeDecl.lines : TypeDecl → List String
  | ofClass decl => decl.lines ""
  | ofInterface decl => decl.lines
  | ofEnum decl => decl.lines

/-- A source file. -/
structure SourceUnit where
  header : Header
  package : String
  type : TypeDecl
  deriving Repr

/-- The lines of a source file. -/
def SourceUnit.lines (unit : SourceUnit) : List String :=
  unit.header.lines ++
    (if unit.package = "" then [] else ["package " ++ unit.package ++ ";", ""]) ++ unit.type.lines

/-- The text of a source file; its last line ends with a line break. -/
def SourceUnit.text (unit : SourceUnit) : String :=
  "\n".intercalate unit.lines ++ "\n"

end BeanGen.Java
