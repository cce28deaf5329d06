import BeanGen.Proofs.Refine.Closure
import BeanGen.Proofs.Refine.Packages
import Mathlib.Data.List.Forall2

/-!
# The types that fields have in the end

Two passes change the types of fields: names in a type are replaced, and the configuration may fix the type.
A field is looked up with the package that the run has put its bean into, so the first pass has a say in what
the fourth one finds. What the fourth one finds stands as it is written in the configuration, because the
replacement of names comes before it. So the type that a field has in the end follows from the package of its
bean and the type that it had (`GetsType`, `getsType_finalType`).

No pass touches anything else of a field, and none adds, drops, moves or renames a bean
(`forall₂_settlesFields_refine`).
-/

namespace BeanGen

open Text TypeText

/-- The type that a field of a class gets: the one that is fixed for it; or else the type that it had with its
names replaced; or else the type that it had. -/
inductive GetsType (config : Config) (package class_ : String) (field : Field) : String → Prop where
  | fixed {type : String}
      (h : fieldOverride? config.fieldTypeMappings package class_ field.name = some type) :
      GetsType config package class_ field type
  | replaced {type : String}
      (hfixed : fieldOverride? config.fieldTypeMappings package class_ field.name = none)
      (h : substitute? config.typeMappings (some field.type) = some type) :
      GetsType config package class_ field type
  | kept (hfixed : fieldOverride? config.fieldTypeMappings package class_ field.name = none)
      (hreplaced : substitute? config.typeMappings (some field.type) = none) :
      GetsType config package class_ field field.type

/-- What a run makes of a bean and its fields. The package is the one that the configuration gives the file of
the bean, if it gives one. -/
structure SettlesFields (config : Config) (roots : Roots) (before after : Bean) : Prop where
  name : after.name = before.name
  kind : after.kind = before.kind
  package : after.package =
    ((packageOf? config roots before.sourcePath).bind nonBlank?).getD before.package
  fields : List.Forall₂
    (fun old new => new = { old with type := new.type } ∧
      GetsType config after.package after.name old new.type)
    before.fields after.fields

section
variable (config : Config) (roots : Roots) (registry : Registry) (bean : Bean)

/-- The final type of a field is the one that it gets. -/
theorem getsType_finalType (field : Field) :
    GetsType config bean.package bean.name field (bean.finalType config field) := by
  rw [Bean.finalType]
  cases hfixed : fieldOverride? config.fieldTypeMappings bean.package bean.name field.name with
  | some type => exact .fixed hfixed
  | none =>
    rw [Option.getD_none, substituted]
    cases hreplaced : substitute? config.typeMappings (some field.type) with
    | some type => exact .replaced hfixed hreplaced
    | none => exact .kept hfixed hreplaced

/-- No pass but the first changes a package. -/
theorem Bean.package_refined :
    (bean.refined config roots registry).package = (bean.placed config roots).1.package := by
  rw [refined_steps, withBase_frame package (fun _ _ _ _ => rfl),
    withFieldTypes_frame package (fun _ _ => rfl),
    Pass.typeNames_frame package (fun _ _ _ _ _ _ _ _ => rfl),
    withEnumInterface_frame package (fun _ _ => rfl)]

/-- All passes together make of a bean and its fields what a run is to make of them. -/
theorem Bean.settlesFields_refined :
    SettlesFields config roots bean (bean.refined config roots registry) where
  name := (bean.keepsDeclaration_refined config roots registry).name
  kind := (bean.keepsDeclaration_refined config roots registry).kind
  package := by rw [package_refined, package_placed_eq]
  fields := by
    rw [fields_refined_eq, List.forall₂_map_right_iff, List.forall₂_same]
    exact fun field _ => ⟨rfl, getsType_finalType config _ field⟩

/-- **The types of fields after a run.** The beans are those that were there, in their order. A field has the
type that the configuration fixes for it under the package that its bean was given in the run; or else the type
that it had, with its names replaced where the configuration has others. All else of a field stays. -/
theorem forall₂_settlesFields_refine :
    List.Forall₂ (SettlesFields config roots) registry.beans (registry.refine config roots).1.beans := by
  rw [Registry.beans_refine, List.forall₂_map_right_iff, List.forall₂_same]
  exact fun bean _ => bean.settlesFields_refined config roots registry

end

end BeanGen
