import BeanGen.Text.Blank
import BeanGen.Text.Slice
import BeanGen.Text.WordChar
import BeanGen.Text.LetterCase

/-!
# Java names

Which names may be declared in a Java source file, and how the parts of a qualified name are taken
out of a type expression.
-/

namespace BeanGen.Java

open Text

/-- Words that Java reserves, the three literals among them. -/
def keywords : List String :=
  ["abstract", "assert", "boolean", "break", "byte", "case", "catch", "char", "class", "const",
   "continue", "default", "do", "double", "else", "enum", "extends", "final", "finally", "float",
   "for", "goto", "if", "implements", "import", "instanceof", "int", "interface", "long", "native",
   "new", "package", "private", "protected", "public", "return", "short", "static", "strictfp",
   "super", "switch", "synchronized", "this", "throw", "throws", "transient", "try", "void",
   "volatile", "while", "true", "false", "null"]

/-- A character that may begin a name. -/
def isNameStart (c : Char) : Bool :=
  isAsciiLetter c || c == '_' || c == '$'

/-- A character that may follow in a name. -/
def isNamePart (c : Char) : Bool :=
  isNameStart c || isAsciiDigit c

/-- The part of the text that a name check reads: one line break at its end is passed over. -/
def withoutFinalBreak (cs : List Char) : List Char :=
  if cs.getLast? == some '\n' then cs.dropLast else cs

/-- A name that can be declared: ASCII letters, digits, `_` and `$`, no digit in front, and not
reserved. -/
def isIdentifier (name : String) : Bool :=
  match withoutFinalBreak name.toList with
  | [] => false
  | c :: cs => isNameStart c && cs.all isNamePart && !keywords.contains name

/-- The name with its first letter in upper case. -/
def capitalized (name : String) : String :=
  String.ofList (capitalize name.toList)

/-- The last segment of the name that a type expression starts with: type arguments and package are
dropped. -/
def simpleName (type : String) : String :=
  String.ofList (afterLast '.' (trim (before '<' type.toList)))

/-- Names in camel case with a capital inside, such as `blockId`. A bean accessor would not give such
a name back, so its fields carry their name in the serialised form. -/
def hasInnerCapital (name : String) : Bool :=
  match name.toList with
  | [] => false
  | c :: cs => isLower c && cs.any isUpper

/-- The two spellings of the class that every Java class extends. -/
def rootObjectNames : List String :=
  ["Object", "java.lang.Object"]

/-- A type expression that denotes the class every Java class extends. -/
def isRootObject (type : String) : Bool :=
  rootObjectNames.contains type || rootObjectNames.contains (simpleName type)

/-- Names that Java resolves without an import. -/
def languageTypes : List String :=
  ["String", "Integer", "Long", "Double", "Float", "Short", "Byte", "Character", "Boolean", "Object"]

/-- Collection names that are written with their package. -/
def collectionTypes : List String :=
  ["List", "Map", "Set"]

end BeanGen.Java
