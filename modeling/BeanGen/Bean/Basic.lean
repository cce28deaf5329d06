/-!
# Beans

A bean is one Java type to be generated: a class, an interface or an enum. It starts with the names
that the declaration refers to; links say which of these names denote other beans.
-/

namespace BeanGen

/-- The kind of Java type. -/
inductive Bean.Kind where
  | javaClass | javaInterface | javaEnum
  deriving DecidableEq, Repr, Inhabited

/-- The Java keyword of a kind. -/
def Bean.Kind.keyword : Bean.Kind → String
  | javaClass => "class"
  | javaInterface => "interface"
  | javaEnum => "enum"

/-- The kind of declaration that a bean was made of. -/
inductive Bean.Origin where
  | interfaceDecl | classDecl | enumDecl | typeAlias
  deriving DecidableEq, Repr, Inhabited

/-- The keyword of a kind of declaration. -/
def Bean.Origin.keyword : Bean.Origin → String
  | interfaceDecl => "interface"
  | classDecl => "class"
  | enumDecl => "enum"
  | typeAlias => "type"

/-- A field of a class, or a property of an interface. -/
structure Field where
  name : String
  type : String
  optional : Bool := false
  visibility : Option String := none
  annotations : List String := []
  deriving DecidableEq, Repr, Inhabited

/-- A constant of an enum with its value as declared. -/
structure Constant where
  name : String
  value : Option String := none
  deriving DecidableEq, Repr, Inhabited

/-- What a reference leads to: a bean of the registry by its name, or a bean that has been replaced
since, by the qualified name it had then. -/
inductive Link where
  | member (name : String)
  | replaced (qualifiedName : String)
  deriving DecidableEq, Repr, Inhabited

/-- A Java type to be generated. -/
structure Bean where
  name : String
  kind : Bean.Kind
  /-- The file of the declaration. -/
  sourcePath : Option String := none
  origin : Option Bean.Origin := none
  /-- The package; empty before it is placed and in the unnamed package. -/
  package : String := ""
  /-- The type it extends, by name. -/
  base : Option String := none
  baseLink : Option Link := none
  /-- All types that the declaration extended. -/
  declaredBases : List String := []
  /-- The types it implements, by name. -/
  interfaces : List String := []
  interfaceLinks : List Link := []
  /-- The type that an alias stands for, as written. -/
  aliasTarget : Option String := none
  aliasLink : Option Link := none
  fields : List Field := []
  constants : List Constant := []
  /-- Bases that were dropped because nothing is known of them. -/
  unresolvedBases : List String := []
  /-- For a helper made of an object type: the bean whose field has this type. -/
  owner : Option String := none
  deriving DecidableEq, Repr, Inhabited

namespace Bean

/-- A bean made of an object type inside a declaration. -/
def isHelper (bean : Bean) : Bool :=
  bean.owner.isSome

/-- The name with the package in front, if there is one. -/
def qualifiedName (bean : Bean) : String :=
  if bean.package = "" then bean.name else bean.package ++ "." ++ bean.name

/-- The elements whose key has not occurred before. -/
def firstByKey {α : Type} (key : α → String) : List String → List α → List α
  | _, [] => []
  | seen, a :: rest =>
    if seen.contains (key a) then firstByKey key seen rest
    else a :: firstByKey key (key a :: seen) rest

/-- The fields without those that repeat an earlier name. -/
def distinctFields (bean : Bean) : List Field :=
  firstByKey Field.name [] bean.fields

end Bean

end BeanGen
