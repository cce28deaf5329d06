import BeanGen.Count
import BeanGen.Config.Basic
import BeanGen.Config.Value

/-!
# Validating a configuration

A configuration document is a mapping from keys to values of any shape. `validate` reads the keys it
knows, each under its name in camel case or, where that is absent, in snake case, and counts every
value that has the wrong shape. Text is never made out of numbers or truth values.
-/

namespace BeanGen.Config

/-- A reading of a value: the result and the number of offending values. The result is complete only
if nothing offends. -/
structure Checked (α : Type) where
  value : α
  errors : Nat

namespace Checked

/-- A result that nothing offends. -/
def ok {α : Type} (value : α) : Checked α := ⟨value, 0⟩

/-- One offending value, with what stands in for the result. -/
def bad {α : Type} (value : α) : Checked α := ⟨value, 1⟩

/-- Readings of all elements, one after the other. -/
def all {α β : Type} (check : α → Checked β) (items : List α) : Checked (List β) :=
  ⟨items.map fun item => (check item).value, total (items.map fun item => (check item).errors)⟩

/-- Changes the result only. -/
def map {α β : Type} (f : α → β) (checked : Checked α) : Checked β :=
  ⟨f checked.value, checked.errors⟩

end Checked

/-- The entry of a mapping under the first of the keys that is there. -/
def field? (keys : List String) (entries : List (Value × Value)) : Option Value :=
  keys.findSome? fun key =>
    (entries.find? fun entry => match entry.1 with
      | .text k => k == key
      | _ => false).map (·.2)

/-- A text, or bytes in UTF-8. -/
def checkText : Value → Checked String
  | .text s => .ok s
  | .bytes content =>
    match String.fromUTF8? ⟨content.toArray⟩ with
    | some s => .ok s
    | none => .bad ""
  | _ => .bad ""

/-- A text or nothing. -/
def checkOptionalText : Value → Checked (Option String)
  | .null => .ok none
  | value => (checkText value).map some

/-- A list of texts. -/
def checkTexts : Value → Checked (List String)
  | .list items => Checked.all checkText items
  | _ => .bad []

/-- A mapping from text to text. Keys and values count separately. -/
def checkTable : Value → Checked Table
  | .mapping entries =>
    let pairs := Checked.all (fun (key, value) =>
      let key := checkText key
      let value := checkText value
      ⟨(key.value, value.value), key.errors + value.errors⟩) entries
    pairs.map Table.ofPairs
  | _ => .bad .empty

/-- Reads an entry with `check`; the default stands if the entry is absent. -/
def checkField {α : Type} (check : Value → Checked α) (default : α) (keys : List String)
    (entries : List (Value × Value)) : Checked α :=
  match field? keys entries with
  | some value => check value
  | none => .ok default

/-- A package rule. -/
def checkRule : Value → Checked PackageRule
  | .mapping entries =>
    let dir := checkField checkText "" ["dirEndsWith", "dir_ends_with"] entries
    let pkg := checkField checkText "" ["pkg"] entries
    ⟨⟨dir.value, pkg.value⟩, dir.errors + pkg.errors⟩
  | _ => .bad {}

/-- A list of package rules. -/
def checkRules : Value → Checked (List PackageRule)
  | .list items => Checked.all checkRule items
  | _ => .bad []

/-- Reads the entries of a configuration: the configuration, or the number of offending values. -/
def validate (entries : List (Value × Value)) : Except Nat Config :=
  let texts (keys : List String) := checkField checkTexts [] keys entries
  let table (keys : List String) := checkField checkTable .empty keys entries
  let optional (keys : List String) := checkField checkOptionalText none keys entries
  let ignored := texts ["ignoreTsItems", "ignore_ts_items"]
  let excluded := texts ["excludeDirSuffixes", "exclude_dir_suffixes"]
  let base := optional ["basePackage", "base_package"]
  let rules := checkField checkRules [] ["packageRules", "package_rules"] entries
  let types := table ["typeMappings", "type_mappings"]
  let fields := table ["fieldTypeMappings", "field_type_mappings"]
  let bases := table ["interfaceExtendsMappings", "interface_extends_mappings"]
  let defaultBase := optional ["defaultBaseClass", "default_base_class"]
  let enums := table ["enumInterfaceMapping", "enum_interface_mapping"]
  let onClass := texts ["additionalClassAnnotations", "additional_class_annotations"]
  let onField := texts ["additionalFieldAnnotations", "additional_field_annotations"]
  let onOptional :=
    texts ["additionalOptionalFieldAnnotations", "additional_optional_field_annotations"]
  let onRequired :=
    texts ["additionalNonOptionalFieldAnnotations", "additional_non_optional_field_annotations"]
  let errors := ignored.errors + excluded.errors + base.errors + rules.errors + types.errors +
    fields.errors + bases.errors + defaultBase.errors + enums.errors + onClass.errors +
    onField.errors + onOptional.errors + onRequired.errors
  if errors = 0 then
    .ok {
      ignoreTsItems := ignored.value
      excludeDirSuffixes := excluded.value
      basePackage := base.value
      packageRules := rules.value
      typeMappings := types.value
      fieldTypeMappings := fields.value
      interfaceExtendsMappings := bases.value
      defaultBaseClass := defaultBase.value
      enumInterfaceMapping := enums.value
      additionalClassAnnotations := onClass.value
      additionalFieldAnnotations := onField.value
      additionalOptionalFieldAnnotations := onOptional.value
      additionalNonOptionalFieldAnnotations := onRequired.value }
  else .error errors

/-- What a rejected configuration says of itself. -/
def rejection (errors : Nat) : String :=
  toString errors ++ (if errors = 1 then " validation error" else " validation errors") ++
    " for GeneratorConfig"

end BeanGen.Config
