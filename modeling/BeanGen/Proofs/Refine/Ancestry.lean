import BeanGen.Proofs.Refine.Links
import BeanGen.Proofs.Refine.Bases
import BeanGen.Proofs.TypeText.Mention
import Mathlib.Logic.Relation

/-!
# The default base and the ancestors of beans

The last pass takes a link to a base away where the base is the class that every class extends, and it adds
links of one kind: to the default base, from every class that is left without a base (`extends_bases_iff`).
It decides this for one class at a time and never looks at what the default base extends itself. So a cycle
comes about as soon as the default base or one of its ancestors is left without a base and gets the default
one, like `A` in `class B extends A` with the default base `B`. No other cycle comes about: links without a
cycle stay without one exactly when no class that gets the default base is reached from it
(`isAcyclic_bases_iff`).
-/

namespace BeanGen

open Text
open Relation (TransGen ReflTransGen)

/-! ## Edges to one vertex -/

section
variable {α : Type} {old new : α → α → Prop} {isSource : α → Prop} {target a b : α}
  (hnew : ∀ a b, new a b ↔ old a b ∨ isSource a ∧ b = target)
include hnew

/-- A way is old, or it leads to a source over old edges. -/
theorem reflTransGen_or_exists_source (h : ReflTransGen new a b) :
    ReflTransGen old a b ∨ ∃ source, isSource source ∧ ReflTransGen old a source := by
  induction h with
  | refl => exact .inl .refl
  | tail _ hedge ih =>
    rcases ih with hold | hsource
    · rcases (hnew _ _).1 hedge with hedge | ⟨hsource, -⟩
      · exact .inl (hold.tail hedge)
      · exact .inr ⟨_, hsource, hold⟩
    · exact .inr hsource

/-- A way that is not empty is old, or it leads to a source over old edges and goes on from the target. -/
theorem transGen_or_exists_source (h : TransGen new a b) :
    TransGen old a b ∨
      ∃ source, isSource source ∧ ReflTransGen old a source ∧ ReflTransGen new target b := by
  induction h with
  | single hedge =>
    rcases (hnew _ _).1 hedge with hedge | ⟨hsource, rfl⟩
    · exact .inl (.single hedge)
    · exact .inr ⟨_, hsource, .refl, .refl⟩
  | tail _ hedge ih =>
    rcases ih with hold | ⟨source, hsource, hfront, hback⟩
    · rcases (hnew _ _).1 hedge with hedge | ⟨hsource, rfl⟩
      · exact .inl (hold.tail hedge)
      · exact .inr ⟨_, hsource, hold.to_reflTransGen, .refl⟩
    · exact .inr ⟨source, hsource, hfront, hback.tail hedge⟩

/-- Edges from sources to one target close no cycle exactly when no source is reached from the target. -/
theorem forall_not_transGen_iff (hacyclic : ∀ a, ¬TransGen old a a) :
    (∀ a, ¬TransGen new a a) ↔ ∀ source, isSource source → ¬ReflTransGen old target source := by
  constructor
  · intro h source hsource hway
    have hfront : ReflTransGen new target source :=
      ReflTransGen.mono (fun a b hedge => (hnew a b).2 (.inl hedge)) _ _ hway
    exact h target (.tail' hfront ((hnew _ _).2 (.inr ⟨hsource, rfl⟩)))
  · intro h a hcycle
    rcases transGen_or_exists_source hnew hcycle with hold | ⟨source, hsource, hfront, hback⟩
    · exact hacyclic a hold
    · rcases reflTransGen_or_exists_source hnew hback with hold | ⟨first, hfirst, hway⟩
      · exact h source hsource (hold.trans hfront)
      · exact h first hfirst hway

end

/-! ## Links to bases -/

namespace Registry

/-- The bean of the first name is linked to that of the second as its base. -/
def Extends (registry : Registry) (derived base : String) : Prop :=
  ∃ bean ∈ registry.beans, bean.name = derived ∧ bean.baseLink = some (.member base)

/-- No bean is a direct or indirect base of itself. -/
def IsAcyclic (registry : Registry) : Prop :=
  ∀ name, ¬TransGen registry.Extends name name

/-- The bean of the first name is linked to that of the second as its base, and this is not the class that
every class extends. -/
def ExtendsProperly (registry : Registry) (derived base : String) : Prop :=
  registry.Extends derived base ∧ Java.isRootObject base = false

/-- A qualified name that no bean of the registry has. -/
def IsExternal (registry : Registry) (name : String) : Prop :=
  '.' ∈ (trimmed name).toList ∧ registry.contains (trimmed name) = false

/-- What a configured text that is external comes to is not in the registry. -/
theorem IsExternal.contains_nonBlank? {registry : Registry} {value new : String}
    (h : registry.IsExternal value) (hnew : nonBlank? value = some new) :
    registry.contains new = false := by
  unfold nonBlank? at hnew
  split at hnew
  · cases hnew
  · cases hnew
    exact h.2

/-- Where links are those that the bases call for, they lead to bases in the registry. -/
theorem extends_iff {registry : Registry}
    (hlinked : ∀ bean ∈ registry.beans, bean.baseLink = registry.linkTo? bean.base)
    {derived base : String} :
    registry.Extends derived base ↔ base ≠ "" ∧ registry.contains base = true ∧
      ∃ bean ∈ registry.beans, bean.name = derived ∧ bean.base = some base := by
  constructor
  · rintro ⟨bean, hbean, hname, hlink⟩
    rw [hlinked bean hbean] at hlink
    obtain ⟨member, hmember, heq, hbase⟩ := exists_of_linkTo? hlink
    cases heq
    have hfound : (registry.linkTo? (some member.name)).isSome = true := by rw [← hbase, hlink]; rfl
    rw [isSome_linkTo?_iff, ← contains_iff] at hfound
    exact ⟨hfound.1, hfound.2, bean, hbean, hname, hbase⟩
  · rintro ⟨hne, hcontains, bean, hbean, hname, hbase⟩
    refine ⟨bean, hbean, hname, ?_⟩
    rw [hlinked bean hbean, hbase, linkTo?_some, if_pos ⟨hne, hcontains⟩]

end Registry

/-- The default base, empty if there is none. -/
def Config.defaultBase (config : Config) : String :=
  trimmed (config.defaultBaseClass.getD "")

/-- The base that a bean is left with before the default base is handed out. -/
def Bean.ownBase? (registry : Registry) (config : Config) (bean : Bean) : Option String :=
  if bean.declaresBase then bean.base.bind (Bean.settledBase? registry config)
  else bean.base.filter fun base => !(base != "" && Java.isRootObject base)

/-- The bean is a class that is left without a base and may get the default one. -/
def Bean.takesDefaultBase (registry : Registry) (config : Config) (bean : Bean) : Bool :=
  { bean with base := bean.ownBase? registry config }.lacksBase config.defaultBase

/-- The bean in front of the last step of the last pass, where the default base is handed out. -/
def Bean.withOwnBase (registry : Registry) (config : Config) (bean : Bean) : Bean :=
  (if bean.declaresBase then (bean.withKnownBase registry config.interfaceExtendsMappings).1
    else bean).withoutRootBase.1

section
variable (registry : Registry) (config : Config) (bean : Bean)

/-- In front of the last step a bean has the base that it is left with. -/
theorem Bean.base_withOwnBase :
    (bean.withOwnBase registry config).base = bean.ownBase? registry config := by
  rw [withOwnBase, base_withoutRootBase, ownBase?]
  split
  · cases h : bean.base with
    | none => simp [withKnownBase, h]
    | some base => rw [base_withKnownBase registry _ h, Option.bind_some, settledBase?]
  · rfl

/-- The steps in front of the last one keep what the declaration says. -/
theorem Bean.keepsDeclaration_withOwnBase :
    KeepsDeclaration bean (bean.withOwnBase registry config) := by
  rw [withOwnBase]
  split
  · exact (bean.keepsDeclaration_withKnownBase registry _).trans
      (Bean.keepsDeclaration_withoutRootBase _)
  · exact bean.keepsDeclaration_withoutRootBase

/-- The default base goes to the beans that take it. -/
theorem Bean.lacksBase_withOwnBase :
    (bean.withOwnBase registry config).lacksBase config.defaultBase =
      bean.takesDefaultBase registry config := by
  have hkeeps := bean.keepsDeclaration_withOwnBase registry config
  rw [takesDefaultBase, lacksBase, lacksBase, isHelper, isHelper, base_withOwnBase, hkeeps.name,
    hkeeps.kind, hkeeps.owner]

/-- After the last pass a bean has the default base if it takes it, and else the base that it is left
with. -/
theorem Pass.base_bases (roots : Roots) :
    (Pass.bases.onBean config roots registry bean).base =
      if bean.takesDefaultBase registry config then some config.defaultBase
      else bean.ownBase? registry config := by
  rw [onBean, Bean.withBase_fst, Bean.base_withDefaultBase, ← Bean.base_withOwnBase,
    ← Bean.lacksBase_withOwnBase]
  rfl

end

section
variable {registry : Registry} {config : Config} {bean : Bean}

/-- With external replacements, the base that a bean is left with is in the registry only if it is the
base that the bean had, and not the class that every class extends. -/
theorem Bean.ownBase?_eq_some_iff
    (hexternal : ∀ value ∈ config.interfaceExtendsMappings.values, registry.IsExternal value)
    {base : String} (hne : base ≠ "") (hcontains : registry.contains base = true) :
    bean.ownBase? registry config = some base ↔
      bean.base = some base ∧ Java.isRootObject base = false := by
  have hroot : (!(base != "" && Java.isRootObject base)) = true ↔ Java.isRootObject base = false := by
    simp [hne]
  unfold ownBase?
  split
  · rw [Option.bind_eq_some_iff]
    constructor
    · rintro ⟨declared, hdeclared, hsettled⟩
      obtain ⟨hsettled, hkept⟩ := Option.filter_eq_some_iff.1 hsettled
      refine ⟨?_, hroot.1 hkept⟩
      split at hsettled
      · rw [hdeclared, hsettled]
      · -- the base has been replaced, and the replacement is external
        obtain ⟨value, hvalue, hnew⟩ := Option.bind_eq_some_iff.1 hsettled
        have hvalue := hexternal value (Config.Table.mem_values_of_get? hvalue)
        rw [hvalue.contains_nonBlank? hnew] at hcontains
        cases hcontains
    · rintro ⟨hbase, hproper⟩
      refine ⟨base, hbase, Option.filter_eq_some_iff.2 ⟨?_, hroot.2 hproper⟩⟩
      rw [if_pos]
      rw [isKnownBase, hcontains, Bool.true_or, Bool.or_true]
  · rw [Option.filter_eq_some_iff, hroot]

/-- A class that takes the default base is left with none. -/
theorem Bean.takesDefaultBase_eq_true (h : bean.takesDefaultBase registry config = true) :
    config.defaultBase ≠ "" ∧ (bean.ownBase? registry config).getD "" = "" := by
  simp only [takesDefaultBase, lacksBase, Bool.and_eq_true, bne_iff_ne, beq_iff_eq] at h
  exact ⟨h.1.1.1.1.1, h.1.1.1.2⟩

/-- The last pass keeps the links of bases in step with the bases. -/
theorem Pass.baseLink_bases {roots : Roots} (hstep : registry.InStep bean) :
    (Pass.bases.onBean config roots registry bean).baseLink =
      registry.linkTo? (Pass.bases.onBean config roots registry bean).base :=
  (Bean.HasReferences.onBean (P := fun name link => link = registry.linkTo? name) (fun _ => rfl)
    ⟨hstep.base, hstep.aliasTarget⟩ config roots .bases).base

/-- The last pass takes the links to the class away that every class extends, and it adds links to the
default base. -/
theorem extends_bases_iff {roots : Roots} (hlinked : ∀ bean ∈ registry.beans, registry.InStep bean)
    (hexternal : ∀ value ∈ config.interfaceExtendsMappings.values, registry.IsExternal value)
    (derived base : String) :
    (Pass.bases.run config roots registry).1.Extends derived base ↔
      registry.ExtendsProperly derived base ∨
        (registry.contains config.defaultBase = true ∧ ∃ bean ∈ registry.beans, bean.name = derived ∧
          bean.takesDefaultBase registry config = true) ∧ base = config.defaultBase := by
  have hnames : (Pass.bases.run config roots registry).1.names = registry.names := Pass.names_run _
  have hlinked' : ∀ bean ∈ (Pass.bases.run config roots registry).1.beans,
      bean.baseLink = (Pass.bases.run config roots registry).1.linkTo? bean.base := by
    intro bean hbean
    rw [Pass.beans_run] at hbean
    obtain ⟨before, hbefore, rfl⟩ := List.mem_map.1 hbean
    rw [Registry.linkTo?_congr hnames]
    exact Pass.baseLink_bases (hlinked before hbefore)
  rw [Registry.ExtendsProperly, Registry.extends_iff hlinked',
    Registry.extends_iff fun bean hbean => (hlinked bean hbean).base, Registry.contains_congr hnames,
    Pass.beans_run]
  constructor
  · rintro ⟨hne, hcontains, after, hafter, hname, hbase⟩
    obtain ⟨bean, hbean, rfl⟩ := List.mem_map.1 hafter
    have hkept : bean.name = derived :=
      (Pass.bases.keepsDeclaration_onBean config roots registry bean).name.symm.trans hname
    rw [Pass.base_bases] at hbase
    split at hbase
    · next htakes =>
      cases hbase
      exact .inr ⟨⟨hcontains, bean, hbean, hkept, htakes⟩, rfl⟩
    · obtain ⟨hbase, hproper⟩ := (Bean.ownBase?_eq_some_iff hexternal hne hcontains).1 hbase
      exact .inl ⟨⟨hne, hcontains, bean, hbean, hkept, hbase⟩, hproper⟩
  · rintro (⟨⟨hne, hcontains, bean, hbean, hname, hbase⟩, hproper⟩ |
      ⟨⟨hcontains, bean, hbean, hname, htakes⟩, rfl⟩)
    · have hown := (Bean.ownBase?_eq_some_iff hexternal hne hcontains).2 ⟨hbase, hproper⟩
      have hkeeps : bean.takesDefaultBase registry config = false := by
        refine Bool.eq_false_iff.2 fun htakes => hne ?_
        simpa [hown] using (Bean.takesDefaultBase_eq_true htakes).2
      refine ⟨hne, hcontains, _, List.mem_map_of_mem hbean,
        (Pass.bases.keepsDeclaration_onBean config roots registry bean).name.trans hname, ?_⟩
      rw [Pass.base_bases, hkeeps, hown]
      rfl
    · refine ⟨(Bean.takesDefaultBase_eq_true htakes).1, hcontains, _, List.mem_map_of_mem hbean,
        (Pass.bases.keepsDeclaration_onBean config roots registry bean).name.trans hname, ?_⟩
      rw [Pass.base_bases, htakes]
      rfl

/-- Links without a cycle stay without one exactly when no class that takes the default base is the
default base or one of its ancestors. -/
theorem isAcyclic_bases_iff {roots : Roots} (hlinked : ∀ bean ∈ registry.beans, registry.InStep bean)
    (hacyclic : registry.IsAcyclic)
    (hexternal : ∀ value ∈ config.interfaceExtendsMappings.values, registry.IsExternal value) :
    (Pass.bases.run config roots registry).1.IsAcyclic ↔
      ∀ bean ∈ registry.beans, bean.takesDefaultBase registry config = true →
        ¬ReflTransGen registry.ExtendsProperly config.defaultBase bean.name := by
  have hproper : ∀ name, ¬TransGen registry.ExtendsProperly name name := fun name hcycle =>
    hacyclic name (TransGen.mono (fun _ _ hedge => hedge.1) _ _ hcycle)
  rw [Registry.IsAcyclic, forall_not_transGen_iff (extends_bases_iff hlinked hexternal) hproper]
  constructor
  · intro h bean hbean htakes hway
    refine h bean.name ⟨?_, bean, hbean, rfl, htakes⟩ hway
    -- the way starts in the registry: it is empty, or its first step is a link of the default base
    rcases hway.cases_head with hname | ⟨next, ⟨⟨first, hfirst, hname, -⟩, -⟩, -⟩
    · rw [hname, Registry.contains_iff]
      exact List.mem_map_of_mem hbean
    · rw [← hname, Registry.contains_iff]
      exact List.mem_map_of_mem hfirst
  · rintro h name ⟨-, bean, hbean, rfl, htakes⟩
    exact h bean hbean htakes

end

/-! ## Two registries -/

namespace Registry

/-- Links that lead from a name to one of lower rank only are without a cycle. -/
theorem isAcyclic_of_rank {registry : Registry} (rank : String → Nat)
    (h : ∀ bean ∈ registry.beans, ∀ base, bean.baseLink = some (.member base) →
      rank base < rank bean.name) : registry.IsAcyclic := by
  have hlower : ∀ derived base, TransGen registry.Extends derived base → rank base < rank derived := by
    intro derived base hway
    induction hway with
    | single hedge =>
      obtain ⟨bean, hbean, rfl, hlink⟩ := hedge
      exact h bean hbean _ hlink
    | tail _ hedge ih =>
      obtain ⟨bean, hbean, rfl, hlink⟩ := hedge
      exact (h bean hbean _ hlink).trans ih
  exact fun name hcycle => Nat.lt_irrefl _ (hlower name name hcycle)

/-- Classes with declared bases of three kinds: `Leaf` extends the bean `Root`, `Mapped` and `Lost` extend
what no bean is named like. -/
def family : Registry where
  beans :=
    [{ name := "Root", kind := .javaClass, origin := some .classDecl },
     { name := "Leaf", kind := .javaClass, origin := some .classDecl, base := some "Root",
       baseLink := some (.member "Root") },
     { name := "Mapped", kind := .javaClass, origin := some .classDecl, base := some "Outside" },
     { name := "Lost", kind := .javaClass, origin := some .classDecl, base := some "Gone" }]
  nodup := by decide

/-- One of the unknown bases is replaced by an external one, and `Root` is the default base. -/
def familyConfig : Config where
  interfaceExtendsMappings := .ofPairs [("Outside", "lib.Base")]
  defaultBaseClass := some "Root"

/-- `class B extends A`, linked. -/
def parentAndChild : Registry where
  beans :=
    [{ name := "A", kind := .javaClass, origin := some .classDecl },
     { name := "B", kind := .javaClass, origin := some .classDecl, base := some "A",
       baseLink := some (.member "A") }]
  nodup := by decide

/-- The links of the child are in step and without a cycle. -/
theorem isAcyclic_parentAndChild :
    (∀ bean ∈ parentAndChild.beans, parentAndChild.InStep bean) ∧ parentAndChild.IsAcyclic := by
  refine ⟨?_, isAcyclic_of_rank (fun name => if name = "B" then 1 else 0) ?_⟩
  · intro bean hbean
    simp only [parentAndChild, List.mem_cons, List.not_mem_nil, or_false] at hbean
    rcases hbean with rfl | rfl <;> exact ⟨by decide, by decide, by decide⟩
  · intro bean hbean base hlink
    simp only [parentAndChild, List.mem_cons, List.not_mem_nil, or_false] at hbean
    rcases hbean with rfl | rfl
    · cases hlink
    · cases hlink
      decide

/-- The default base `Root` goes to `Lost` only, from which no link leads back. -/
theorem isAcyclic_bases_family :
    ((∀ bean ∈ family.beans, family.InStep bean) ∧ family.IsAcyclic ∧
      ∀ value ∈ familyConfig.interfaceExtendsMappings.values, family.IsExternal value) ∧
    (Pass.bases.run familyConfig ⟨[], []⟩ family).1.IsAcyclic := by
  have hlinked : ∀ bean ∈ family.beans, family.InStep bean := by
    intro bean hbean
    simp only [family, List.mem_cons, List.not_mem_nil, or_false] at hbean
    rcases hbean with rfl | rfl | rfl | rfl <;> exact ⟨by decide, by decide, by decide⟩
  have hacyclic : family.IsAcyclic := by
    refine isAcyclic_of_rank (fun name => if name = "Root" then 0 else 1) ?_
    intro bean hbean base hlink
    simp only [family, List.mem_cons, List.not_mem_nil, or_false] at hbean
    rcases hbean with rfl | rfl | rfl | rfl <;> cases hlink
    decide
  have hexternal : ∀ value ∈ familyConfig.interfaceExtendsMappings.values,
      family.IsExternal value := by
    intro value hvalue
    obtain rfl : value = "lib.Base" := List.mem_singleton.1 hvalue
    exact ⟨by decide, by decide⟩
  refine ⟨⟨hlinked, hacyclic, hexternal⟩, (isAcyclic_bases_iff hlinked hacyclic hexternal).2 ?_⟩
  intro bean hbean htakes hway
  have hstart : bean.name = "Root" := by
    rcases hway.cases_head with hname | ⟨next, ⟨⟨first, hfirst, hname, hlink⟩, -⟩, -⟩
    · exact hname.symm
    · simp only [family, List.mem_cons, List.not_mem_nil, or_false] at hfirst
      rcases hfirst with rfl | rfl | rfl | rfl
      · cases hlink
      · exact absurd hname (by decide)
      · cases hlink
      · cases hlink
  simp only [family, List.mem_cons, List.not_mem_nil, or_false] at hbean
  rcases hbean with rfl | rfl | rfl | rfl
  · exact absurd htakes (by decide)
  all_goals exact absurd hstart (by decide)

/-- With the default base `B`, the class `A` that `B` extends extends `B` afterwards: the own name of a
class is all that keeps it from the default base. -/
theorem not_forall_isAcyclic_bases :
    ¬ ∀ (config : Config) (roots : Roots) (registry : Registry),
      (∀ bean ∈ registry.beans, registry.InStep bean) → registry.IsAcyclic →
      (∀ value ∈ config.interfaceExtendsMappings.values, registry.IsExternal value) →
      (Pass.bases.run config roots registry).1.IsAcyclic := by
  intro h
  obtain ⟨hlinked, hacyclic⟩ := isAcyclic_parentAndChild
  let config : Config := { defaultBaseClass := some "B" }
  have hexternal : ∀ value ∈ config.interfaceExtendsMappings.values, parentAndChild.IsExternal value :=
    fun _ hvalue => absurd hvalue List.not_mem_nil
  have hextends : ∀ start next, (Pass.bases.run config ⟨[], []⟩ parentAndChild).1.Extends start next ↔ _ :=
    extends_bases_iff hlinked hexternal
  have hparent : (Pass.bases.run config ⟨[], []⟩ parentAndChild).1.Extends "A" "B" :=
    (hextends "A" "B").2 (.inr ⟨⟨by decide, _, List.mem_cons_self, rfl, by decide⟩, by decide⟩)
  have hchild : (Pass.bases.run config ⟨[], []⟩ parentAndChild).1.Extends "B" "A" :=
    (hextends "B" "A").2
      (.inl ⟨⟨_, List.mem_cons_of_mem _ List.mem_cons_self, rfl, rfl⟩, by decide⟩)
  exact h config _ _ hlinked hacyclic hexternal "A" (.tail (.single hparent) hchild)

end Registry

end BeanGen
