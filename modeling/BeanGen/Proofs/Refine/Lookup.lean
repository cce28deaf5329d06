import BeanGen.Proofs.Refine.Bases

/-!
# What the passes look up

Apart from links, which are not written, only the last pass looks into the registry, and it asks one
question: whether the base that a bean has by then is known. So two registries refine a bean alike if
they answer this question alike (`Bean.unlinked_refined_congr`), be they different otherwise.
-/

namespace BeanGen

open Text

section
variable {config : Config} {roots : Roots} {registry other : Registry}

/-- What a pass before the last makes of a bean depends on the registry in the links only. -/
theorem Pass.unlinked_onBean_congr {pass : Pass} (hbases : pass ≠ .bases) (bean : Bean) :
    (pass.onBean config roots registry bean).unlinked =
      (pass.onBean config roots other bean).unlinked := by
  cases pass with
  | packages | enumInterfaces | fieldTypes => rfl
  | typeNames =>
    unfold onBean Bean.withTypeNames substitutedReference
    dsimp only
    split
    · rfl
    · cases TypeText.substitute? config.typeMappings bean.base <;>
        cases TypeText.substitute? config.typeMappings bean.aliasTarget <;> rfl
  | bases => exact absurd rfl hbases

/-- Passes before the last make the same of beans that differ in their links only. -/
theorem Pass.unlinked_foldl_congr {passes : List Pass} (hbases : Pass.bases ∉ passes)
    {bean bean' : Bean} (h : bean.unlinked = bean'.unlinked) :
    (passes.foldl (fun bean pass => pass.onBean config roots registry bean) bean).unlinked =
      (passes.foldl (fun bean pass => pass.onBean config roots other bean) bean').unlinked := by
  induction passes generalizing bean bean' with
  | nil => exact h
  | cons pass passes ih =>
    have hpass : pass ≠ .bases := fun heq => hbases (heq ▸ List.mem_cons_self)
    refine ih (fun hmem => hbases (List.mem_cons_of_mem _ hmem)) ?_
    calc (pass.onBean config roots registry bean).unlinked
        = (pass.onBean config roots registry bean.unlinked).unlinked :=
          (ReadsNoLink.onBean config roots registry pass bean).symm
      _ = (pass.onBean config roots other bean'.unlinked).unlinked := by
          rw [h, Pass.unlinked_onBean_congr hpass]
      _ = (pass.onBean config roots other bean').unlinked :=
          ReadsNoLink.onBean config roots other pass bean'

/-- In front of the last pass nothing but links depends on the registry. -/
theorem Bean.unlinked_prepared_congr (bean : Bean) :
    (bean.prepared config roots registry).unlinked =
      (bean.prepared config roots other).unlinked :=
  Pass.unlinked_foldl_congr (by decide) rfl

section
variable {bean : Bean}

/-- A declared base is repaired alike where it is known alike. -/
theorem Bean.unlinked_withKnownBase_congr (table : Config.Table)
    (h : ∀ base, bean.base = some base → isBlankText base = false →
      isKnownBase registry base = isKnownBase other base) :
    (bean.withKnownBase registry table).1.unlinked = (bean.withKnownBase other table).1.unlinked := by
  unfold withKnownBase
  cases hbase : bean.base with
  | none => rfl
  | some base =>
    dsimp only
    cases hblank : isBlankText base with
    | true => rfl
    | false =>
      rw [h base hbase hblank]
      split
      · rfl
      · split <;> rfl

/-- A base is settled alike where it is known alike. -/
theorem Bean.unlinked_withBase_congr
    (h : ∀ base, bean.base = some base → isBlankText base = false →
      isKnownBase registry base = isKnownBase other base) :
    (bean.withBase registry config).1.unlinked = (bean.withBase other config).1.unlinked := by
  have hknown : (if bean.declaresBase then
        (bean.withKnownBase registry config.interfaceExtendsMappings).1 else bean).unlinked =
      (if bean.declaresBase then
        (bean.withKnownBase other config.interfaceExtendsMappings).1 else bean).unlinked := by
    split
    · exact unlinked_withKnownBase_congr _ h
    · rfl
  -- the two steps behind it read no link, and the second one looks up a link only
  have hrest := (ReadsNoLink.withDefaultBase registry
    (trimmed (config.defaultBaseClass.getD ""))).comp ReadsNoLink.withoutRootBase
  have hrest' := (ReadsNoLink.withDefaultBase other
    (trimmed (config.defaultBaseClass.getD ""))).comp ReadsNoLink.withoutRootBase
  have hlinks : ∀ bean : Bean,
      (bean.withDefaultBase registry (trimmed (config.defaultBaseClass.getD ""))).1.unlinked =
        (bean.withDefaultBase other (trimmed (config.defaultBaseClass.getD ""))).1.unlinked := by
    intro bean
    unfold withDefaultBase
    split <;> rfl
  rw [withBase_fst, withBase_fst, ← hrest, hknown, hlinks, hrest']

/-- A bean is refined alike by registries that know the base alike which it has before the last
pass. -/
theorem Bean.unlinked_refined_congr
    (h : ∀ base, (bean.prepared config roots registry).base = some base →
      isBlankText base = false → isKnownBase registry base = isKnownBase other base) :
    (bean.refined config roots registry).unlinked = (bean.refined config roots other).unlinked := by
  rw [refined_eq, refined_eq, unlinked_withBase_congr h]
  have hread := ReadsNoLink.withBase other config
  rw [← hread (bean.prepared config roots registry), unlinked_prepared_congr, hread]

/-- A bean is refined alike by registries that contain the same names. -/
theorem Bean.unlinked_refined_of_names (h : ∀ name, name ∈ registry.names ↔ name ∈ other.names) :
    (bean.refined config roots registry).unlinked = (bean.refined config roots other).unlinked := by
  refine unlinked_refined_congr fun base _ _ => ?_
  have hcontains : registry.contains base = other.contains base := by
    rw [Bool.eq_iff_iff, Registry.contains_iff, Registry.contains_iff, h]
  rw [isKnownBase, isKnownBase, hcontains]

end

/-- The beans of a run are those of the declarations in their order, each refined on its own. -/
theorem unlinkedBeans_refinedBeans (files : Source.Files) :
    (refinedBeans config roots files).unlinkedBeans =
      (Registry.ofFiles files).unlinkedBeans.map fun bean =>
        (bean.refined config roots (Registry.ofFiles files)).unlinked := by
  rw [Registry.unlinkedBeans, beans_refinedBeans, Registry.unlinkedBeans, List.map_map, List.map_map]
  exact List.map_congr_left fun bean _ => bean.unlinked_settled config roots _

end

end BeanGen
