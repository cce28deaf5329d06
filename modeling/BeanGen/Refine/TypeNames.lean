import BeanGen.Count
import BeanGen.Bean.Registry
import BeanGen.Config.Basic
import BeanGen.TypeText.Substitution

/-!
# Qualifying type names

The configuration may send simple type names to qualified ones. This replaces them wherever a bean
refers to a type: in its base, its interfaces, its alias target and its fields. A reference whose name
changes is linked anew.
-/

namespace BeanGen

open Config (Table)
open TypeText (substitute?)

/-- A type expression after substitution, and whether that changed it. -/
def substituted (table : Table) (type : String) : String × Nat :=
  match substitute? table (some type) with
  | some new => (new, 1)
  | none => (type, 0)

/-- A reference after substitution with its link, and whether that changed it. -/
def substitutedReference (registry : Registry) (table : Table) (name : Option String)
    (link : Option Link) : Option String × Option Link × Nat :=
  match substitute? table name with
  | some new => (some new, registry.linkTo? (some new), 1)
  | none => (name, link, 0)

/-- Replaces the type names of a bean. Counts the references that change. -/
def Bean.withTypeNames (registry : Registry) (table : Table) (bean : Bean) : Bean × Nat :=
  let (base, baseLink, baseCount) := substitutedReference registry table bean.base bean.baseLink
  let (target, targetLink, targetCount) :=
    substitutedReference registry table bean.aliasTarget bean.aliasLink
  let interfaces := bean.interfaces.map (substituted table)
  let types := bean.fields.map fun field => substituted table field.type
  ({ bean with
      base := base
      baseLink := baseLink
      interfaces := interfaces.map (·.1)
      interfaceLinks := interfaces.filterMap fun (name, _) => registry.linkTo? (some name)
      aliasTarget := target
      aliasLink := targetLink
      fields := bean.fields.map fun field =>
        { field with type := (substituted table field.type).1 } },
    baseCount + total (interfaces.map (·.2)) + targetCount + total (types.map (·.2)))

end BeanGen
