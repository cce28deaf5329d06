import BeanGen.Bean.Linking
import BeanGen.Java.Name
import BeanGen.Source.Basic
import BeanGen.TypeText.Mapping

/-!
# Beans from declarations

Each declaration becomes a bean. Interfaces become classes, because the values have state on the Java
side. An alias of an object type becomes a class with its members, any other alias a class with one
field. An object type with members named after the four directions gets a helper class of its own,
named after the owner and the field; other object types are maps.
-/

namespace BeanGen

/-- The names of the four directions. -/
def directions : List String := ["n", "e", "s", "w"]

/-- An object type that has members, all of them named after directions. -/
def isDirectional (members : List String) : Bool :=
  !members.isEmpty && members.all directions.contains

/-- The field of an alias that is no object type. -/
def aliasField : String := "value"

/-- The marker that keeps the name of a field in the serialised form. -/
def jsonPropertyMarker (name : String) : String :=
  "@com.fasterxml.jackson.annotation.JsonProperty(\"" ++ name ++ "\")"

/-- A field with the marker that its name needs. -/
def Field.ofProperty (property : Source.Property) (type : String) (visibility : Option String) :
    Field where
  name := property.name
  type := type
  optional := property.optional
  visibility := visibility
  annotations := if Java.hasInnerCapital property.name then [jsonPropertyMarker property.name] else []

/-- The Java type of a member by the rules for type text. -/
def mappedType (property : Source.Property) : String :=
  TypeText.javaTypeText property.optional property.typeHint (some property.type)

/-- The type of the member is a directional object type, and no hint overrides it. -/
def needsHelper (property : Source.Property) : Bool :=
  match property.members with
  | some members =>
    (property.typeHint.getD "") == "" && isDirectional (members.map (·.name))
  | none => false

/-- The helper class for a member of `owner`. -/
def helperBean (owner : String) (path : String) (name : String) (property : Source.Property) :
    Bean where
  name := name
  kind := .javaClass
  sourcePath := some path
  origin := some .typeAlias
  owner := some owner
  fields := (property.members.getD []).map fun member =>
    .ofProperty member (mappedType member) none

/-- Fields with the helpers that their types need. A helper name that is taken is used as it is. -/
def fieldsOf (registry : Registry) (owner path : String) (properties : List Source.Property) :
    List Field × List Bean :=
  properties.foldl (fun (fields, helpers) property =>
    if needsHelper property then
      let name := owner ++ Java.capitalized property.name
      let helpers :=
        if registry.contains name || helpers.any (·.name == name) then helpers
        else helpers ++ [helperBean owner path name property]
      (fields ++ [.ofProperty property name property.visibility], helpers)
    else
      (fields ++ [.ofProperty property (mappedType property) property.visibility], helpers))
    ([], [])

/-- Adds a bean with the given members, and its helpers behind it. -/
def Registry.declare (registry : Registry) (path : String) (properties : List Source.Property)
    (bean : Bean) : Registry :=
  let (fields, helpers) := fieldsOf registry bean.name path properties
  (registry.add { bean with fields := fields, sourcePath := some path }).addAll helpers

/-- Adds the bean of an interface. Of several bases only the first is kept. -/
def Registry.declareInterface (path : String) (registry : Registry) (decl : Source.Interface) :
    Registry :=
  registry.declare path decl.properties
    { name := decl.name
      kind := .javaClass
      origin := some .interfaceDecl
      base := decl.bases.head?
      declaredBases := decl.bases }

/-- Adds the bean of a class. -/
def Registry.declareClass (path : String) (registry : Registry) (decl : Source.Class) : Registry :=
  let base := decl.base.filter (· != "")
  registry.declare path decl.properties
    { name := decl.name
      kind := .javaClass
      origin := some .classDecl
      base := base
      declaredBases := base.toList
      interfaces := decl.implements.filter (· != "") }

/-- Adds the bean of an enum. -/
def Registry.declareEnum (path : String) (registry : Registry) (decl : Source.Enum) : Registry :=
  registry.add
    { name := decl.name
      kind := .javaEnum
      sourcePath := some path
      origin := some .enumDecl
      constants := decl.members.map fun member => ⟨member.name, member.value⟩ }

/-- Adds the bean of an alias. A target that could not be read is taken for text. -/
def Registry.declareAlias (path : String) (registry : Registry) (decl : Source.Alias) : Registry :=
  let bean : Bean := { name := decl.name, kind := .javaClass, origin := some .typeAlias }
  match decl.properties with
  | some (property :: rest) => registry.declare path (property :: rest) bean
  | _ =>
    let type := match decl.target.filter (· != "") with
      | some target => TypeText.javaTypeText true none (some target)
      | none => Java.TypeExpr.text.print
    registry.add
      { bean with
        sourcePath := some path
        aliasTarget := decl.target
        fields := [{ name := aliasField, type := type }] }

/-- Adds the beans of a file: interfaces, enums, classes and aliases, in this order. -/
def Registry.declareFile (registry : Registry) (file : Source.File) : Registry :=
  let registry := file.interfaces.foldl (declareInterface file.path) registry
  let registry := file.enums.foldl (declareEnum file.path) registry
  let registry := file.classes.foldl (declareClass file.path) registry
  file.aliases.foldl (declareAlias file.path) registry

/-- The beans of all files, not yet linked. -/
def Registry.ofFiles (files : Source.Files) : Registry :=
  files.foldl declareFile empty

end BeanGen
