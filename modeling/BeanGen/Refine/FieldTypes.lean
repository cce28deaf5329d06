import BeanGen.Bean.Registry
import BeanGen.Config.Basic
import BeanGen.Text.Blank

/-!
# Types of particular fields

The configuration may fix the type of a field. Keys name the field with its class and package, with
its class, or by any text that the full name ends with.
-/

namespace BeanGen

open Config (Table)

/-- The type that the configuration fixes for a field, if any. -/
def fieldOverride? (table : Table) (package class_ field : String) : Option String :=
  let simple := class_ ++ "." ++ field
  let qualified := if package = "" then simple else package ++ "." ++ simple
  let byName (key : String) := (table.get? key).bind Text.nonBlank?
  let byEnding := table.entries.findSome? fun (key, value) =>
    match Text.nonBlank? key with
    | some ending =>
      if ending.toList.isSuffixOf qualified.toList then Text.nonBlank? value else none
    | none => none
  ((byName qualified).or (byName simple)).or byEnding

/-- Gives the fields of a bean their fixed types. Counts the fields that have one. -/
def Bean.withFieldTypes (table : Table) (bean : Bean) : Bean × Nat :=
  let override (field : Field) := fieldOverride? table bean.package bean.name field.name
  ({ bean with fields := bean.fields.map fun field =>
      { field with type := (override field).getD field.type } },
    (bean.fields.filter fun field => (override field).isSome).length)

end BeanGen
