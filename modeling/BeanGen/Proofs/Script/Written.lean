import BeanGen.Java.Name
import BeanGen.Script.Items

/-!
# Written declarations

The declarations that models are usually made of, as data: interfaces, classes and enums with one member
a line, and aliases of types. `printed` writes them as a script, and `source` is the file that a reader
of the script should find. What could not be printed cannot be built: names are identifiers without a
meaning of their own in the language, the texts of strings consist of letters and digits, and the names
in a clause are distinct.
-/

namespace BeanGen.Written

/-! ## Names and texts -/

/-- The words that the language reserves, and those that it gives a meaning in some places. -/
def keywords : List String :=
  ["abstract", "accessor", "any", "as", "assert", "asserts", "async", "await", "bigint", "boolean",
   "break", "case", "catch", "class", "const", "constructor", "continue", "debugger", "declare",
   "default", "defer", "delete", "do", "else", "enum", "export", "extends", "false", "finally", "for",
   "from", "function", "get", "global", "if", "implements", "import", "in", "infer", "instanceof",
   "interface", "intrinsic", "is", "keyof", "let", "module", "namespace", "never", "new", "null",
   "number", "object", "of", "out", "override", "package", "private", "protected", "public", "readonly",
   "require", "return", "satisfies", "set", "static", "string", "super", "switch", "symbol", "this",
   "throw", "true", "try", "type", "typeof", "undefined", "unique", "unknown", "using", "var", "void",
   "while", "with", "yield"]

/-- ASCII letters, digits, `_` and `$`, no digit in front. -/
def isIdentifier (cs : List Char) : Bool :=
  match cs with
  | [] => false
  | c :: cs => Java.isNameStart c && cs.all Java.isNamePart

/-- A name that can be declared. -/
@[ext]
structure Name where
  text : String
  valid : isIdentifier text.toList = true
  free : text ∉ keywords

/-- The characters of the name. -/
def Name.chars (name : Name) : List Char :=
  name.text.toList

/-- The text of a string: ASCII letters and digits. -/
structure Letters where
  text : String
  nonempty : text.toList ≠ []
  valid : text.toList.all (fun c => Text.isAsciiLetter c || Text.isAsciiDigit c) = true

/-- The text as a string. -/
def Letters.quoted (letters : Letters) : List Char :=
  '\'' :: letters.text.toList ++ ['\'']

/-! ## Types -/

/-- The words for types that need no declaration. -/
def predefinedTypes : List String :=
  ["any", "number", "boolean", "string", "symbol", "void", "unknown", "never", "object", "true",
   "false", "null", "undefined", "this"]

mutual

/-- A type as it is written. -/
inductive TypeForm where
  | named (name : Name)
  | predefined (word : String) (h : word ∈ predefinedTypes)
  | literal (letters : Letters)
  | array (item : TypeForm)
  | applied (name : Name) (args : TypeForms)
  | union (left right : TypeForm)

/-- One type or more. -/
inductive TypeForms where
  | one (type : TypeForm)
  | more (type : TypeForm) (types : TypeForms)

end

mutual

/-- The type as text. -/
def TypeForm.printed : TypeForm → List Char
  | .named name => name.chars
  | .predefined word _ => word.toList
  | .literal letters => letters.quoted
  | .array item => item.printed ++ ['[', ']']
  | .applied name args => name.chars ++ '<' :: args.printed ++ ['>']
  | .union left right => left.printed ++ [' ', '|', ' '] ++ right.printed

/-- The types with commas between them. -/
def TypeForms.printed : TypeForms → List Char
  | .one type => type.printed
  | .more type types => type.printed ++ [',', ' '] ++ types.printed

end

/-! ## Members -/

/-- A comment that asks for the Java type of a member: names with dots between them. -/
structure Pragma where
  text : String
  valid : (Text.splitOn '.' text.toList).all isIdentifier = true

/-- The comment. -/
def Pragma.printed (pragma : Pragma) : List Char :=
  "// javaType: ".toList ++ pragma.text.toList

/-- A property of an interface or a class. -/
structure Property where
  name : Name
  type : TypeForm
  optional : Bool := false
  pragma : Option Pragma := none

/-- The rest of the line behind the semicolon of the property. -/
def Property.lineEnd (property : Property) : List Char :=
  match property.pragma with
  | some pragma => ' ' :: pragma.printed ++ ['\n']
  | none => ['\n']

/-- The mark of a property that may be missing, and its colon. -/
def Property.colon (property : Property) : List Char :=
  if property.optional then ['?', ':', ' '] else [':', ' ']

/-- The property on its line. -/
def Property.printed (property : Property) : List Char :=
  ' ' :: ' ' :: property.name.chars ++ property.colon ++ property.type.printed ++
    ';' :: property.lineEnd

/-- The property as it is found in the script. -/
def Property.source (property : Property) : Source.Property where
  name := property.name.text
  type := String.ofList property.type.printed
  optional := property.optional
  comment := property.pragma.map fun pragma => String.ofList pragma.printed
  typeHint := property.pragma.map Pragma.text

/-- The properties in braces. -/
def body (properties : List Property) : List Char :=
  ' ' :: '\x7b' :: '\n' :: properties.flatMap Property.printed ++ ['\x7d', '\n']

/-! ## Declarations -/

/-- The names with commas between them. -/
def listing : Name → List Name → List Char
  | name, [] => name.chars
  | name, next :: names => name.chars ++ [',', ' '] ++ listing next names

/-- The keyword with the names behind it; nothing if there are none. -/
def clause (keyword : String) : List Name → List Char
  | [] => []
  | name :: names => ' ' :: keyword.toList ++ ' ' :: listing name names

/-- An interface. -/
structure Interface where
  name : Name
  bases : List Name := []
  properties : List Property := []
  distinct : bases.Nodup

/-- The interface behind its keyword. -/
def Interface.printed (decl : Interface) : List Char :=
  decl.name.chars ++ clause "extends" decl.bases ++ body decl.properties

/-- The interface as it is found in the script. -/
def Interface.source (decl : Interface) : Source.Interface where
  name := decl.name.text
  bases := decl.bases.map Name.text
  properties := decl.properties.map Property.source

/-- A class. -/
structure Class where
  name : Name
  base : Option Name := none
  implements : List Name := []
  properties : List Property := []
  distinct : implements.Nodup

/-- The class behind its keyword. -/
def Class.printed (decl : Class) : List Char :=
  decl.name.chars ++ clause "extends" decl.base.toList ++ clause "implements" decl.implements ++
    body decl.properties

/-- The class as it is found in the script. -/
def Class.source (decl : Class) : Source.Class where
  name := decl.name.text
  base := decl.base.map Name.text
  implements := decl.implements.map Name.text
  properties := decl.properties.map Property.source

/-- The value of a constant. -/
inductive Value where
  | integer (n : Int)
  | text (letters : Letters)

/-- The value as text. -/
def Value.printed : Value → List Char
  | .integer n => (toString n).toList
  | .text letters => letters.quoted

/-- The value without quotation marks. -/
def Value.source : Value → String
  | .integer n => toString n
  | .text letters => letters.text

/-- A constant of an enum. -/
structure Constant where
  name : Name
  value : Option Value := none

/-- The constant on its line. -/
def Constant.printed (constant : Constant) : List Char :=
  ' ' :: ' ' :: constant.name.chars ++
    match constant.value with
    | some value => ' ' :: '=' :: ' ' :: value.printed ++ [',', '\n']
    | none => [',', '\n']

/-- The constant as it is found in the script. -/
def Constant.source (constant : Constant) : Source.EnumMember where
  name := constant.name.text
  value := constant.value.map Value.source

/-- An enum. -/
structure Enum where
  name : Name
  constants : List Constant := []

/-- The enum behind its keyword. -/
def Enum.printed (decl : Enum) : List Char :=
  decl.name.chars ++
    ' ' :: '\x7b' :: '\n' :: decl.constants.flatMap Constant.printed ++ ['\x7d', '\n']

/-- The enum as it is found in the script. -/
def Enum.source (decl : Enum) : Source.Enum where
  name := decl.name.text
  members := decl.constants.map Constant.source

/-- An alias of a type. -/
structure Alias where
  name : Name
  target : TypeForm

/-- The alias behind its keyword. -/
def Alias.printed (decl : Alias) : List Char :=
  decl.name.chars ++ [' ', '=', ' '] ++ decl.target.printed ++ [';', '\n']

/-- The alias as it is found in the script. -/
def Alias.source (decl : Alias) : Source.Alias where
  name := decl.name.text
  target := some (String.ofList decl.target.printed)

/-- A declaration of one of the four kinds. -/
inductive Declaration where
  | ofInterface (decl : Interface)
  | ofClass (decl : Class)
  | ofEnum (decl : Enum)
  | ofAlias (decl : Alias)

/-- The keyword of the declaration. -/
def Declaration.keyword : Declaration → String
  | .ofInterface _ => "interface"
  | .ofClass _ => "class"
  | .ofEnum _ => "enum"
  | .ofAlias _ => "type"

/-- The declaration behind its keyword. -/
def Declaration.behindKeyword : Declaration → List Char
  | .ofInterface decl => decl.printed
  | .ofClass decl => decl.printed
  | .ofEnum decl => decl.printed
  | .ofAlias decl => decl.printed

/-- The declaration with its keyword. -/
def Declaration.printed (decl : Declaration) : List Char :=
  decl.keyword.toList ++ ' ' :: decl.behindKeyword

/-- The declaration as it is found in the script. -/
def Declaration.source : Declaration → Script.Declaration
  | .ofInterface decl => .ofInterface decl.source
  | .ofClass decl => .ofClass decl.source
  | .ofEnum decl => .ofEnum decl.source
  | .ofAlias decl => .ofAlias decl.source

/-! ## Scripts -/

/-- A statement: a declaration that may be exported. -/
structure Statement where
  exported : Bool := false
  decl : Declaration

/-- The statement as text. -/
def Statement.printed (statement : Statement) : List Char :=
  (if statement.exported then "export ".toList else []) ++ statement.decl.printed

/-- The statements as a script. -/
def script (statements : List Statement) : String :=
  String.ofList (statements.flatMap Statement.printed)

/-- The interfaces among the statements, in order. -/
def interfaces (statements : List Statement) : List Interface :=
  statements.filterMap fun statement =>
    match statement.decl with
    | .ofInterface decl => some decl
    | _ => none

/-- The classes among the statements, in order. -/
def classes (statements : List Statement) : List Class :=
  statements.filterMap fun statement =>
    match statement.decl with
    | .ofClass decl => some decl
    | _ => none

/-- The enums among the statements, in order. -/
def enums (statements : List Statement) : List Enum :=
  statements.filterMap fun statement =>
    match statement.decl with
    | .ofEnum decl => some decl
    | _ => none

/-- The aliases among the statements, in order. -/
def aliases (statements : List Statement) : List Alias :=
  statements.filterMap fun statement =>
    match statement.decl with
    | .ofAlias decl => some decl
    | _ => none

/-- The file that a reader of the script should find. -/
def source (path : String) (statements : List Statement) : Source.File where
  path := path
  interfaces := (interfaces statements).map Interface.source
  classes := (classes statements).map Class.source
  enums := (enums statements).map Enum.source
  aliases := (aliases statements).map Alias.source

end BeanGen.Written
