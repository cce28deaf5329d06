import BeanGen.Bean.Registry
import BeanGen.Config.Basic
import BeanGen.Java.Name
import BeanGen.Java.TypeExpr
import BeanGen.Text.Blank
import BeanGen.TypeText.Outline

/-!
# Writing type names

A writer knows the beans and the annotations that the configuration asks for. `qualify` writes a type
expression as it must stand at a given place: beans of other packages with their package, helpers
behind the class they are nested in, collections with the package of the Java library.
-/

namespace BeanGen

open Text

/-- Annotations as they are written: trimmed, with an `@` in front, blank ones left out. -/
def normalizeAnnotations (annotations : List (Option String)) : List String :=
  annotations.filterMap fun entry =>
    (entry.bind nonBlank?).map fun s => if s.toList.head? == some '@' then s else "@" ++ s

/-- What the rendering of a bean refers to. -/
structure Writer where
  registry : Registry
  classAnnotations : List String
  fieldAnnotations : List String
  optionalAnnotations : List String
  requiredAnnotations : List String

namespace Writer

/-- The writer for a registry under a configuration. -/
def of (registry : Registry) (config : Config) : Writer where
  registry := registry
  classAnnotations := normalizeAnnotations (config.additionalClassAnnotations.map some)
  fieldAnnotations := normalizeAnnotations (config.additionalFieldAnnotations.map some)
  optionalAnnotations := normalizeAnnotations (config.additionalOptionalFieldAnnotations.map some)
  requiredAnnotations := normalizeAnnotations (config.additionalNonOptionalFieldAnnotations.map some)

/-- The class that a helper is nested in: its owner, if that is a class of the registry. -/
def outerOf? (writer : Writer) (bean : Bean) : Option Bean :=
  (writer.registry.resolve? bean.owner).filter (·.kind == .javaClass)

/-- The class that the helper of a name is nested in. -/
def outer? (writer : Writer) (name : String) : Option Bean :=
  (writer.registry.beans.find? (·.name == name)).bind writer.outerOf?

/-- The helpers nested in a class, in order. -/
def nestedIn (writer : Writer) (name : String) : List Bean :=
  writer.registry.beans.filter fun bean =>
    match writer.outerOf? bean with
    | some outer => outer.name == name
    | none => false

/-- Writes one name inside class `inside` of a package. -/
def qualifyName (writer : Writer) (package inside name : String) : String :=
  if name = "" then "Object"
  else if name.toList.contains '.' || Java.languageTypes.contains name then name
  else if Java.collectionTypes.contains name then "java.util." ++ name
  else match writer.outer? name with
    | some outer =>
      if inside = outer.name || inside = name then name
      else if outer.package = "" || outer.package = package then outer.name ++ "." ++ name
      else outer.qualifiedName ++ "." ++ name
    | none =>
      match writer.registry.get? name with
      | some bean =>
        if bean.package != "" && bean.package != package then bean.qualifiedName else name
      | none => name

/-- Writes every name of a type expression. A blank expression is an object. -/
def qualifyText (writer : Writer) (package inside : String) (type : List Char) : List Char :=
  if allBlank type then "Object".toList
  else
    match _h : TypeText.outline (trim type) with
    | .applied name args =>
      let written := (args.attach.filter (!·.1.isEmpty)).map fun arg =>
        writer.qualifyText package inside arg.1
      (writer.qualifyName package inside (String.ofList name)).toList ++
        '<' :: ", ".toList.intercalate written ++ ['>']
    | .array element => writer.qualifyText package inside element ++ ['[', ']']
    | .simple name => (writer.qualifyName package inside (String.ofList name)).toList
termination_by type.length
decreasing_by
  all_goals
    refine Nat.lt_of_lt_of_le (TypeText.length_lt_of_mem_parts_outline ?_) (length_trim_le type)
  · rw [_h]
    exact arg.2
  · simp [_h, TypeText.Outline.parts]

/-- `qualifyText` on strings. -/
def qualify (writer : Writer) (package inside : String) (type : String) : String :=
  String.ofList (writer.qualifyText package inside type.toList)

/-- The given types, written, without the blank ones. -/
def qualifyAll (writer : Writer) (package inside : String) (types : List String) : List String :=
  (types.filter (!isBlankText ·)).map (writer.qualify package inside)

end Writer

end BeanGen
