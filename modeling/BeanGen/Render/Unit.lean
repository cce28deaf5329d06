import BeanGen.Java.Unit
import BeanGen.Place.Path
import BeanGen.Render.EnumBody
import BeanGen.Render.Writer

/-!
# The source file of a bean

A bean becomes the declaration of its kind. Names that cannot be declared are left out with what they
name. Helpers are nested in the class that owns them.
-/

namespace BeanGen

open Java (isIdentifier simpleName isRootObject)

/-- The annotations of every class. -/
def standardAnnotations : List String :=
  ["@lombok.Data", "@lombok.experimental.SuperBuilder", "@lombok.NoArgsConstructor"]

/-- The annotation of a class with fields. -/
def allFieldsConstructor : String :=
  "@lombok.AllArgsConstructor(access = lombok.AccessLevel.PROTECTED)"

namespace Writer

/-- The header comment of a bean. -/
def header (bean : Bean) : Java.Header where
  sourceFile := (bean.sourcePath.filter (· != "")).map Place.fileName
  declared := ((bean.origin.map Bean.Origin.keyword).getD bean.kind.keyword) ++ " " ++ bean.name
  droppedBases := bean.unresolvedBases

/-- A written type whose last name can be a type name. -/
def isTypeName (type : String) : Bool :=
  isIdentifier (simpleName type)

/-- The enum declaration of a bean. -/
def enumDecl (writer : Writer) (bean : Bean) : Java.EnumDecl where
  name := bean.name
  interfaces := writer.qualifyAll bean.package bean.name bean.interfaces
  body := if bean.constants.isEmpty then none else some (enumBody bean.constants)

/-- The interface declaration of a bean. -/
def interfaceDecl (writer : Writer) (bean : Bean) : Java.InterfaceDecl where
  name := bean.name
  bases :=
    (writer.qualifyAll bean.package bean.name (bean.base.toList ++ bean.interfaces)).filter isTypeName
  accessors := bean.distinctFields.filterMap fun field =>
    let name := "get" ++ Java.capitalized field.name
    if isIdentifier name then some ⟨writer.qualify bean.package bean.name field.type, name⟩ else none

/-- The written base of a class. A base that every class has, or that is no name, is left out. -/
def baseOf? (writer : Writer) (package : String) (bean : Bean) : Option String :=
  ((bean.base.filter (!Text.isBlankText ·)).map (writer.qualify package bean.name)).filter
    fun base => !isRootObject base && isTypeName base

/-- A field declaration with the annotations that the configuration adds. -/
def fieldDecl (writer : Writer) (package inside : String) (field : Field) : Java.FieldDecl where
  annotations := field.annotations ++ writer.fieldAnnotations ++
    if field.optional then writer.optionalAnnotations else writer.requiredAnnotations
  type := writer.qualify package inside field.type
  name := field.name

/-- The name of the field that a helper was made for, taken from the name of the helper. -/
def helperLabel (owner helper : String) : String :=
  String.ofList (Text.uncapitalize (helper.toList.drop owner.length))

/-- The class declaration of a bean with its helpers nested to a depth. -/
def classDecl (writer : Writer) (package : String) : Nat → Bean → Java.ClassDecl
  | depth, bean =>
    let fields := bean.distinctFields.filter fun field => isIdentifier field.name
    let nested := match depth with
      | 0 => []
      | depth + 1 => (writer.nestedIn bean.name).map fun helper =>
        (helperLabel bean.name helper.name, writer.classDecl package depth helper)
    .mk
      (writer.classAnnotations ++ standardAnnotations ++
        if fields.isEmpty then [] else [allFieldsConstructor])
      bean.name
      (writer.baseOf? package bean)
      ((writer.qualifyAll package bean.name bean.interfaces).filter isTypeName)
      (fields.map (writer.fieldDecl package bean.name))
      nested

/-- The type declaration of a bean. Helpers nest no deeper than there are beans. -/
def typeDecl (writer : Writer) (bean : Bean) : Java.TypeDecl :=
  match bean.kind with
  | .javaEnum => .ofEnum (writer.enumDecl bean)
  | .javaInterface => .ofInterface (writer.interfaceDecl bean)
  | .javaClass => .ofClass (writer.classDecl bean.package writer.registry.beans.length bean)

/-- The source file of a bean. -/
def unit (writer : Writer) (bean : Bean) : Java.SourceUnit where
  header := header bean
  package := bean.package
  type := writer.typeDecl bean

/-- The path of the source file below an output directory: the package as directories, then the
name. -/
def pathOf (output : String) (bean : Bean) : String :=
  Place.joinTexts <|
    [output] ++
    (if bean.package = "" then []
     else (Text.splitOn '.' bean.package.toList).map String.ofList) ++
    [bean.name ++ ".java"]

/-- The beans that get a file of their own: those with a name that can be declared, except nested
helpers. -/
def emitted (writer : Writer) : List Bean :=
  writer.registry.beans.filter fun bean =>
    isIdentifier bean.name && (writer.outerOf? bean).isNone

/-- The source files below an output directory, each with its path, in order. -/
def outputs (writer : Writer) (output : String) : List (String × Java.SourceUnit) :=
  writer.emitted.map fun bean => (pathOf output bean, writer.unit bean)

end Writer

end BeanGen
