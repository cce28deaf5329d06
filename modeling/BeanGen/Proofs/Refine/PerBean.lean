import BeanGen.Bean.Linking
import BeanGen.Proofs.Bean.Registry
import BeanGen.Refine.Pass
import BeanGen.Run.Generation

/-!
# Refining bean by bean

Linking and the five passes run over the whole registry, one after the other. They look into the
registry for names only (`Registry.linkTo?_congr`), and none of them changes a name, so all of them
together are one function of a bean: a run holds for each bean of the declarations what `Bean.settled`
makes of it (`beans_refinedBeans`, `bean?_refinedBeans`).

What a run may change is bounded by `KeepsDeclaration`: the name, the kind, the origin, the
constants and all of a field but its type stay as they were declared.
-/

namespace BeanGen

/-! ## A pass as a function of one bean -/

/-- What a pass makes of one bean. -/
def Pass.onBean (config : Config) (roots : Roots) (registry : Registry) : Pass → Bean → Bean
  | packages, bean => (bean.placed config roots).1
  | enumInterfaces, bean => (bean.withEnumInterface config.enumInterfaceMapping).1
  | typeNames, bean =>
    if config.typeMappings.isEmpty then bean
    else (bean.withTypeNames registry config.typeMappings).1
  | fieldTypes, bean => (bean.withFieldTypes config.fieldTypeMappings).1
  | bases, bean => (bean.withBase registry config).1

/-- What all passes together make of one bean. -/
def Bean.refined (config : Config) (roots : Roots) (registry : Registry) (bean : Bean) : Bean :=
  Pass.all.foldl (fun bean pass => pass.onBean config roots registry bean) bean

/-! ## What stays of a bean -/

/-- All that a declaration says of a bean and no pass changes. Of a field only the type may change. -/
structure KeepsDeclaration (before after : Bean) : Prop where
  name : after.name = before.name
  kind : after.kind = before.kind
  sourcePath : after.sourcePath = before.sourcePath
  origin : after.origin = before.origin
  owner : after.owner = before.owner
  declaredBases : after.declaredBases = before.declaredBases
  constants : after.constants = before.constants
  fields : ∃ retype : Field → String,
    after.fields = before.fields.map fun field => { field with type := retype field }

namespace KeepsDeclaration

/-- A bean keeps what it says itself. -/
theorem refl (bean : Bean) : KeepsDeclaration bean bean :=
  ⟨rfl, rfl, rfl, rfl, rfl, rfl, rfl, Field.type, by simp⟩

/-- What two changes keep one after the other they keep together. -/
theorem trans {a b c : Bean} (h : KeepsDeclaration a b) (h' : KeepsDeclaration b c) :
    KeepsDeclaration a c := by
  obtain ⟨retype, hfields⟩ := h.fields
  obtain ⟨retype', hfields'⟩ := h'.fields
  refine ⟨h'.name.trans h.name, h'.kind.trans h.kind, h'.sourcePath.trans h.sourcePath,
    h'.origin.trans h.origin, h'.owner.trans h.owner, h'.declaredBases.trans h.declaredBases,
    h'.constants.trans h.constants, fun field => retype' { field with type := retype field }, ?_⟩
  rw [hfields', hfields, List.map_map]
  rfl

/-- The names of the fields stay. -/
theorem fieldNames {before after : Bean} (h : KeepsDeclaration before after) :
    after.fields.map (·.name) = before.fields.map (·.name) := by
  obtain ⟨retype, hfields⟩ := h.fields
  rw [hfields, List.map_map]
  rfl

/-- The links are no part of what a declaration says. -/
theorem unlinked (bean : Bean) : KeepsDeclaration bean bean.unlinked :=
  ⟨rfl, rfl, rfl, rfl, rfl, rfl, rfl, Field.type, by simp [Bean.unlinked]⟩

/-- Changes outside the fields and all that a declaration says are allowed. -/
theorem of_fields_eq {before after : Bean} (hname : after.name = before.name)
    (hkind : after.kind = before.kind) (hsourcePath : after.sourcePath = before.sourcePath)
    (horigin : after.origin = before.origin) (howner : after.owner = before.owner)
    (hdeclared : after.declaredBases = before.declaredBases)
    (hconstants : after.constants = before.constants) (hfields : after.fields = before.fields) :
    KeepsDeclaration before after :=
  ⟨hname, hkind, hsourcePath, horigin, howner, hdeclared, hconstants, Field.type, by simp [hfields]⟩

end KeepsDeclaration

section
variable (config : Config) (roots : Roots) (registry : Registry) (bean : Bean)

/-- The base is settled in three steps, the first of them only where a declaration gives a base. -/
theorem Bean.withBase_fst :
    (bean.withBase registry config).1 =
      ((if bean.declaresBase then
          (bean.withKnownBase registry config.interfaceExtendsMappings).1
        else bean).withoutRootBase.1.withDefaultBase registry
          (Text.trimmed (config.defaultBaseClass.getD ""))).1 := by
  by_cases h : bean.declaresBase = true
  · simp only [withBase, if_pos h]
  · simp only [withBase, if_neg h]

/-- Repairing the declared base keeps what the declaration says. -/
theorem Bean.keepsDeclaration_withKnownBase (table : Config.Table) :
    KeepsDeclaration bean (bean.withKnownBase registry table).1 := by
  unfold Bean.withKnownBase
  split
  · exact .refl bean
  split
  · exact .refl bean
  split <;> exact .of_fields_eq rfl rfl rfl rfl rfl rfl rfl rfl

/-- Removing the base that every class has keeps what the declaration says. -/
theorem Bean.keepsDeclaration_withoutRootBase : KeepsDeclaration bean bean.withoutRootBase.1 := by
  unfold Bean.withoutRootBase
  split
  · split
    · exact .of_fields_eq rfl rfl rfl rfl rfl rfl rfl rfl
    · exact .refl bean
  · exact .refl bean

/-- Giving the default base keeps what the declaration says. -/
theorem Bean.keepsDeclaration_withDefaultBase (default : String) :
    KeepsDeclaration bean (bean.withDefaultBase registry default).1 := by
  unfold Bean.withDefaultBase
  split
  · exact .of_fields_eq rfl rfl rfl rfl rfl rfl rfl rfl
  · exact .refl bean

/-- A pass keeps what the declaration says. -/
theorem Pass.keepsDeclaration_onBean (pass : Pass) :
    KeepsDeclaration bean (pass.onBean config roots registry bean) := by
  cases pass with
  | packages =>
    show KeepsDeclaration bean (bean.placed config roots).1
    unfold Bean.placed
    split
    · exact .of_fields_eq rfl rfl rfl rfl rfl rfl rfl rfl
    · exact .refl bean
  | enumInterfaces =>
    show KeepsDeclaration bean (bean.withEnumInterface config.enumInterfaceMapping).1
    unfold Bean.withEnumInterface
    split
    · split
      · exact .of_fields_eq rfl rfl rfl rfl rfl rfl rfl rfl
      · exact .refl bean
    · exact .refl bean
  | typeNames =>
    show KeepsDeclaration bean (if config.typeMappings.isEmpty then bean
      else (bean.withTypeNames registry config.typeMappings).1)
    split
    · exact .refl bean
    · exact ⟨rfl, rfl, rfl, rfl, rfl, rfl, rfl, _, rfl⟩
  | fieldTypes => exact ⟨rfl, rfl, rfl, rfl, rfl, rfl, rfl, _, rfl⟩
  | bases =>
    show KeepsDeclaration bean (bean.withBase registry config).1
    rw [Bean.withBase_fst]
    refine .trans ?_ (.trans (Bean.keepsDeclaration_withoutRootBase _)
      (Bean.keepsDeclaration_withDefaultBase registry _ _))
    split
    · exact bean.keepsDeclaration_withKnownBase registry _
    · exact .refl bean

/-- Passes one after the other keep what the declaration says. -/
theorem Pass.keepsDeclaration_foldl (passes : List Pass) :
    KeepsDeclaration bean
      (passes.foldl (fun bean pass => pass.onBean config roots registry bean) bean) := by
  induction passes generalizing bean with
  | nil => exact .refl bean
  | cons pass passes ih => exact (pass.keepsDeclaration_onBean config roots registry bean).trans (ih _)

/-- All passes together keep what the declaration says. -/
theorem Bean.keepsDeclaration_refined :
    KeepsDeclaration bean (bean.refined config roots registry) :=
  Pass.keepsDeclaration_foldl config roots registry bean Pass.all

end

/-! ## Passes look for names only -/

namespace Registry

section
variable {registry other : Registry}

/-- Registries with the same names contain the same names. -/
theorem contains_congr (h : registry.names = other.names) (name : String) :
    registry.contains name = other.contains name := by
  rw [Bool.eq_iff_iff, contains_iff, contains_iff, h]

/-- A link leads to the name itself, where the registry has it. -/
theorem linkTo?_some (registry : Registry) (name : String) :
    registry.linkTo? (some name) =
      if name ≠ "" ∧ registry.contains name = true then some (.member name) else none := by
  unfold linkTo? resolve?
  rw [Option.bind_some, contains_eq]
  cases hget : registry.get? name with
  | none =>
    have hview := registry.get?_unlinked name
    rw [hget] at hview
    split at hview
    · next hempty => simp [hempty]
    · simp [← hview]
  | some bean =>
    obtain ⟨hmem, rfl, hne⟩ := mem_of_get? hget
    simp [hne, bean?_of_mem hmem]

/-- Registries with the same names link alike. -/
theorem linkTo?_congr (h : registry.names = other.names) : registry.linkTo? = other.linkTo? := by
  funext name
  cases name with
  | none => rfl
  | some name => rw [linkTo?_some, linkTo?_some, contains_congr h]

end

end Registry

section
variable {config : Config} {roots : Roots} {registry other : Registry}

/-- What a pass makes of a bean depends on the names of the registry only. -/
theorem Pass.onBean_congr (h : registry.names = other.names) (pass : Pass) :
    pass.onBean config roots registry = pass.onBean config roots other := by
  funext bean
  cases pass with
  | packages | enumInterfaces | fieldTypes => rfl
  | typeNames =>
    unfold onBean Bean.withTypeNames substitutedReference
    rw [Registry.linkTo?_congr h]
  | bases =>
    unfold onBean Bean.withBase Bean.withDefaultBase Bean.withKnownBase isKnownBase
    simp only [Registry.linkTo?_congr h, Registry.contains_congr h]

/-- A pass goes over the registry bean by bean. -/
theorem Pass.beans_run (pass : Pass) :
    (pass.run config roots registry).1.beans =
      registry.beans.map (pass.onBean config roots registry) := by
  have hname := fun bean => (pass.keepsDeclaration_onBean config roots registry bean).name
  cases pass with
  | packages | enumInterfaces | fieldTypes | bases =>
    simp only [onBean] at hname
    exact registry.beans_update hname
  | typeNames =>
    show (if config.typeMappings.isEmpty then (registry, 0)
        else registry.update (Bean.withTypeNames registry config.typeMappings)).1.beans =
      registry.beans.map fun bean => if config.typeMappings.isEmpty then bean
        else (bean.withTypeNames registry config.typeMappings).1
    by_cases hempty : config.typeMappings.isEmpty = true
    · simp [hempty]
    · simp only [onBean, if_neg hempty] at hname ⊢
      exact registry.beans_update hname

/-- A pass keeps the names of the registry. -/
theorem Pass.names_run (pass : Pass) :
    (pass.run config roots registry).1.names = registry.names := by
  rw [Registry.names, beans_run, List.map_map, Registry.names]
  exact List.map_congr_left fun bean _ => (pass.keepsDeclaration_onBean config roots registry bean).name

/-- Passes one after the other go over the registry bean by bean, too. -/
theorem Registry.beans_runPasses (passes : List Pass) :
    (registry.runPasses config roots passes).1.beans = registry.beans.map fun bean =>
      passes.foldl (fun bean pass => pass.onBean config roots registry bean) bean := by
  suffices ∀ current : Registry, current.names = registry.names →
      (current.runPasses config roots passes).1.beans = current.beans.map fun bean =>
        passes.foldl (fun bean pass => pass.onBean config roots registry bean) bean from
    this registry rfl
  induction passes with
  | nil => exact fun current _ => by simp [runPasses]
  | cons pass passes ih =>
    intro current hnames
    unfold runPasses
    rw [ih _ (pass.names_run.trans hnames), Pass.beans_run, Pass.onBean_congr hnames, List.map_map]
    rfl

/-- Refining a registry refines each bean. -/
theorem Registry.beans_refine :
    (registry.refine config roots).1.beans =
      registry.beans.map (Bean.refined config roots registry) :=
  beans_runPasses Pass.all

/-- Linking goes over the registry bean by bean. -/
theorem Registry.beans_link :
    registry.link.1.beans = registry.beans.map fun bean => (bean.linked registry).1 :=
  registry.beans_update fun _ => rfl

end

/-! ## What is refined of a bean does not depend on its links -/

/-- A change of beans reads no link: what it makes of a bean it makes of the bean without links. -/
def ReadsNoLink (f : Bean → Bean) : Prop :=
  ∀ bean : Bean, (f bean.unlinked).unlinked = (f bean).unlinked

namespace ReadsNoLink

/-- Changes that read no link read none one after the other. -/
theorem comp {f g : Bean → Bean} (hg : ReadsNoLink g) (hf : ReadsNoLink f) :
    ReadsNoLink fun bean => g (f bean) := fun bean => by
  rw [← hg (f bean.unlinked), hf bean, hg]

/-- Repairing the declared base reads no link. -/
theorem withKnownBase (registry : Registry) (table : Config.Table) :
    ReadsNoLink fun bean => (bean.withKnownBase registry table).1 := by
  intro bean
  have hbase : bean.unlinked.base = bean.base := rfl
  simp only [Bean.withKnownBase, hbase]
  cases bean.base with
  | none => rfl
  | some base =>
    dsimp only
    split
    · rfl
    · split <;> rfl

/-- Removing the base that every class has reads no link. -/
theorem withoutRootBase : ReadsNoLink fun bean => bean.withoutRootBase.1 := by
  intro bean
  have hbase : bean.unlinked.base = bean.base := rfl
  simp only [Bean.withoutRootBase, hbase]
  cases bean.base with
  | none => rfl
  | some base =>
    dsimp only
    split <;> rfl

/-- Giving the default base reads no link. -/
theorem withDefaultBase (registry : Registry) (default : String) :
    ReadsNoLink fun bean => (bean.withDefaultBase registry default).1 := by
  intro bean
  have hlacks : bean.unlinked.lacksBase default = bean.lacksBase default := rfl
  simp only [Bean.withDefaultBase, hlacks]
  split <;> rfl

/-- Settling the base reads no link. -/
theorem withBase (registry : Registry) (config : Config) :
    ReadsNoLink fun bean => (bean.withBase registry config).1 := by
  have hknown : ReadsNoLink fun bean =>
      if bean.declaresBase then (bean.withKnownBase registry config.interfaceExtendsMappings).1
      else bean := by
    intro bean
    have hdeclares : bean.unlinked.declaresBase = bean.declaresBase := rfl
    simp only [hdeclares]
    split
    · exact withKnownBase registry _ bean
    · rfl
  intro bean
  simp only [Bean.withBase_fst]
  exact (withDefaultBase registry _).comp (withoutRootBase.comp hknown) bean

/-- A pass reads no link. -/
theorem onBean (config : Config) (roots : Roots) (registry : Registry) (pass : Pass) :
    ReadsNoLink (pass.onBean config roots registry) := by
  intro bean
  cases pass with
  | packages =>
    show (bean.unlinked.placed config roots).1.unlinked = (bean.placed config roots).1.unlinked
    have hpath : bean.unlinked.sourcePath = bean.sourcePath := rfl
    unfold Bean.placed
    rw [hpath]
    cases (packageOf? config roots bean.sourcePath).bind Text.nonBlank? <;> rfl
  | enumInterfaces =>
    have hkind : bean.unlinked.kind = bean.kind := rfl
    have hname : bean.unlinked.name = bean.name := rfl
    have hpackage : bean.unlinked.package = bean.package := rfl
    simp only [Pass.onBean, Bean.withEnumInterface, hkind, hname, hpackage]
    split
    · split <;> rfl
    · rfl
  | typeNames =>
    have hbase : bean.unlinked.base = bean.base := rfl
    have htarget : bean.unlinked.aliasTarget = bean.aliasTarget := rfl
    simp only [Pass.onBean]
    split
    · rfl
    · simp only [Bean.withTypeNames, substitutedReference, hbase, htarget]
      cases TypeText.substitute? config.typeMappings bean.base <;>
        cases TypeText.substitute? config.typeMappings bean.aliasTarget <;> rfl
  | fieldTypes => rfl
  | bases => exact withBase registry config bean

/-- All passes together read no link. -/
theorem refined (config : Config) (roots : Roots) (registry : Registry) :
    ReadsNoLink (Bean.refined config roots registry) := by
  unfold Bean.refined
  induction Pass.all with
  | nil => exact fun bean => rfl
  | cons pass passes ih => exact comp ih (onBean config roots registry pass)

end ReadsNoLink

/-! ## The beans of a run -/

/-- What a run makes of a bean: it is linked, then refined. -/
def Bean.settled (config : Config) (roots : Roots) (registry : Registry) (bean : Bean) : Bean :=
  (bean.linked registry).1.refined config roots registry

section
variable (config : Config) (roots : Roots) (registry : Registry) (bean : Bean)

/-- A run keeps what the declaration says. -/
theorem Bean.keepsDeclaration_settled :
    KeepsDeclaration bean (bean.settled config roots registry) := by
  have hlinked : KeepsDeclaration bean (bean.linked registry).1 :=
    .of_fields_eq rfl rfl rfl rfl rfl rfl rfl rfl
  exact hlinked.trans (Bean.keepsDeclaration_refined config roots registry _)

/-- Without its links a bean is settled by refining it. -/
theorem Bean.unlinked_settled :
    (bean.settled config roots registry).unlinked =
      (bean.unlinked.refined config roots registry).unlinked :=
  (ReadsNoLink.refined config roots registry (bean.linked registry).1).symm

end

section
variable (config : Config) (roots : Roots) (files : Source.Files)

/-- The beans of a run are those of the declarations, each settled on its own. -/
theorem beans_refinedBeans :
    (refinedBeans config roots files).beans =
      (Registry.ofFiles files).beans.map (Bean.settled config roots (Registry.ofFiles files)) := by
  have hnames : (Registry.ofFiles files).link.1.names = (Registry.ofFiles files).names :=
    Registry.names_update _ _
  unfold refinedBeans
  rw [Registry.beans_refine, Registry.beans_link, List.map_map]
  refine List.map_congr_left fun bean _ => ?_
  simp only [Function.comp_apply, Bean.settled, Bean.refined, Pass.onBean_congr hnames]

/-- What a run holds under a name is what the declarations hold there, refined. -/
theorem bean?_refinedBeans (name : String) :
    (refinedBeans config roots files).bean? name =
      ((Registry.ofFiles files).bean? name).map fun bean =>
        (bean.refined config roots (Registry.ofFiles files)).unlinked := by
  unfold Registry.bean?
  rw [beans_refinedBeans, List.find?_map, Option.map_map, Option.map_map]
  have htest : ((fun bean : Bean => bean.name == name) ∘
      Bean.settled config roots (Registry.ofFiles files)) = fun bean : Bean => bean.name == name := by
    funext bean
    rw [Function.comp_apply, (bean.keepsDeclaration_settled config roots _).name]
  rw [htest]
  exact Option.map_congr fun bean _ => bean.unlinked_settled config roots _

end

end BeanGen
