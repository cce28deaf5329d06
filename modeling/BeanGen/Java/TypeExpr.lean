/-!
# Java type expressions

The types that declarations are mapped to: a primitive, a name, or a name with type arguments.
`print` writes them with `, ` between the arguments. Type arguments cannot be primitives, so
`boxed` replaces a primitive by its wrapper class.
-/

namespace BeanGen.Java

/-- The primitive types of Java. -/
inductive Primitive where
  | int | long | double | float | short | byte | char | boolean
  deriving DecidableEq, Repr

namespace Primitive

/-- Every primitive type. -/
def all : List Primitive :=
  [int, long, double, float, short, byte, char, boolean]

/-- The keyword of a primitive type. -/
def keyword : Primitive → String
  | int => "int"
  | long => "long"
  | double => "double"
  | float => "float"
  | short => "short"
  | byte => "byte"
  | char => "char"
  | boolean => "boolean"

/-- The class that wraps values of a primitive type. -/
def wrapper : Primitive → String
  | int => "java.lang.Integer"
  | long => "java.lang.Long"
  | double => "java.lang.Double"
  | float => "java.lang.Float"
  | short => "java.lang.Short"
  | byte => "java.lang.Byte"
  | char => "java.lang.Character"
  | boolean => "java.lang.Boolean"

/-- The primitive type with this keyword. -/
def ofKeyword? (s : String) : Option Primitive :=
  all.find? (·.keyword == s)

end Primitive

/-- The text of a type with a primitive replaced by its wrapper class; any other text stays. -/
def boxText (type : String) : String :=
  match Primitive.ofKeyword? type with
  | some p => p.wrapper
  | none => type

/-- A Java type expression. -/
inductive TypeExpr where
  | prim (p : Primitive)
  | named (name : String)
  | applied (name : String) (args : List TypeExpr)
  deriving Repr

namespace TypeExpr

/-- The text of a type expression. -/
def print : TypeExpr → String
  | prim p => p.keyword
  | named name => name
  | applied name args => name ++ "<" ++ ", ".intercalate (args.map print) ++ ">"

/-- A type that can stand as a type argument. -/
def boxed : TypeExpr → TypeExpr
  | prim p => named p.wrapper
  | type => type

/-- `boxed` when the value may be missing: only objects can be absent. -/
def boxedIf (optional : Bool) (type : TypeExpr) : TypeExpr :=
  if optional then type.boxed else type

/-- The type of text. -/
def text : TypeExpr := named "String"

/-- The type that says nothing about its values. -/
def object : TypeExpr := named "Object"

/-- An ordered collection. -/
def list (element : TypeExpr) : TypeExpr :=
  applied "java.util.List" [element]

/-- A collection of values by key. -/
def map (key value : TypeExpr) : TypeExpr :=
  applied "java.util.Map" [key, value]

/-- What an object literal becomes: values of any type by text keys. -/
def record : TypeExpr := map text object

end TypeExpr

end BeanGen.Java
