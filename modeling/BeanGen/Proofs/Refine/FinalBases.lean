import BeanGen.Proofs.Refine.Ancestry
import Mathlib.Data.List.Forall2

/-!
# What the last pass leaves of bases

The last pass looks at a declared base first. Nothing is known of a base that is neither blank nor qualified
nor in the registry (`Bean.HasUnknownBase`). The configuration may have another base for it
(`Config.baseFor?`), and if it has none, the base is dropped and noted (`Bean.DropsBase`). Then the class that
every class extends is taken away, whoever has it as a base, and last a class without a base gets the default
one. So there are two cases for the base that a bean is left with before the last step
(`Bean.ownBase?_of_unknown`, `Bean.ownBase?_of_known`), and every base that is there in the end is one that
needs no repair, or comes from the configuration (`IsAccountedFor`, `forall₂_settlesBase_bases`).
-/

namespace BeanGen

open Text

/-- The declared base of the bean, and nothing is known of it. -/
structure Bean.HasUnknownBase (registry : Registry) (bean : Bean) (base : String) : Prop where
  declares : bean.declaresBase = true
  base_eq : bean.base = some base
  nonblank : isBlankText base = false
  absent : registry.contains base = false
  undotted : '.' ∉ base.toList

/-- The base that the configuration has in place of another one. -/
def Config.baseFor? (config : Config) (base : String) : Option String :=
  (config.interfaceExtendsMappings.get? base).bind nonBlank?

/-- The declared base of the bean is dropped: nothing is known of it, and the configuration has no other. -/
structure Bean.DropsBase (registry : Registry) (config : Config) (bean : Bean) (base : String) : Prop
    extends bean.HasUnknownBase registry base where
  unmapped : ∀ value, config.interfaceExtendsMappings.get? base = some value → isBlankText value = true

/-- A base that needs no repair, or that comes from the configuration. -/
inductive IsAccountedFor (registry : Registry) (config : Config) : String → Prop where
  | blank {base : String} (h : isBlankText base = true) : IsAccountedFor registry config base
  | qualified {base : String} (h : '.' ∈ base.toList) : IsAccountedFor registry config base
  | member {base : String} (h : registry.contains base = true) : IsAccountedFor registry config base
  | replacement {value : String} (h : value ∈ config.interfaceExtendsMappings.values) :
      IsAccountedFor registry config (trimmed value)
  | default {value : String} (h : config.defaultBaseClass = some value) :
      IsAccountedFor registry config (trimmed value)

/-- What the last pass makes of the base of a bean: it is not the class that every class extends; if the bean
declares a base, the base is accounted for; the declared base is noted if it is dropped, and nothing else is
noted; and only a class that is no helper gets a base without having had one. -/
structure SettlesBase (registry : Registry) (config : Config) (before after : Bean) : Prop where
  name : after.name = before.name
  simpleName_ne : ∀ base, after.base = some base → Java.simpleName base ≠ "Object"
  accounted : before.declaresBase = true →
    ∀ base, after.base = some base → IsAccountedFor registry config base
  noted : ∀ base, before.DropsBase registry config base →
    after.unresolvedBases = before.unresolvedBases ++ [base]
  notNoted : (∀ base, ¬ before.DropsBase registry config base) →
    after.unresolvedBases = before.unresolvedBases
  withoutBase : before.kind ≠ .javaClass ∨ before.isHelper = true → before.base.getD "" = "" →
    after.base = before.base

/-! ## The base that a bean is left with -/

section
variable {registry : Registry} {config : Config} {bean : Bean} {base : String}

/-- The empty text is not the class that every class extends. -/
theorem bne_and_isRootObject (base : String) :
    (base != "" && Java.isRootObject base) = Java.isRootObject base := by
  by_cases hempty : base = ""
  · rw [hempty]
    decide
  · rw [bne_iff_ne.2 hempty, Bool.true_and]

/-- Another simple name is that of another class. -/
theorem simpleName_ne_of_isRootObject (h : Java.isRootObject base = false) :
    Java.simpleName base ≠ "Object" := by
  intro hname
  rw [Java.isRootObject, hname, Bool.or_eq_false_iff] at h
  exact absurd h.2 (by decide)

/-- What the configuration has in place of a base is one of its values, trimmed. -/
theorem exists_of_baseFor? {new : String} (h : config.baseFor? base = some new) :
    ∃ value ∈ config.interfaceExtendsMappings.values, trimmed value = new := by
  obtain ⟨value, hvalue, hnew⟩ := Option.bind_eq_some_iff.1 h
  rw [nonBlank?, Option.ite_none_left_eq_some] at hnew
  exact ⟨value, Config.Table.mem_values_of_get? hvalue, Option.some.inj hnew.2⟩

/-- The configuration has no other base exactly when its value for the base is blank or missing. -/
theorem baseFor?_eq_none_iff : config.baseFor? base = none ↔
    ∀ value, config.interfaceExtendsMappings.get? base = some value → isBlankText value = true := by
  rw [Config.baseFor?, Option.bind_eq_none_iff]
  refine forall₂_congr fun value _ => ?_
  rw [nonBlank?, ite_eq_left_iff, Bool.not_eq_true]
  simp

namespace Bean

/-- Nothing is known of a declared base that is neither blank nor known. -/
theorem hasUnknownBase_iff : bean.HasUnknownBase registry base ↔ bean.declaresBase = true ∧
    bean.base = some base ∧ (isBlankText base || isKnownBase registry base) = false := by
  simp only [isKnownBase, Bool.or_eq_false_iff, List.contains_eq_mem, decide_eq_false_iff_not]
  constructor
  · exact fun h => ⟨h.declares, h.base_eq, h.nonblank, h.absent, h.undotted⟩
  · rintro ⟨hdeclares, hbase, hblank, habsent, hdot⟩
    exact ⟨hdeclares, hbase, hblank, habsent, hdot⟩

/-- A declared base of which something is known is blank or known. -/
theorem blank_or_known_of_not_hasUnknownBase (hdeclares : bean.declaresBase = true)
    (hbase : bean.base = some base) (h : ∀ base, ¬ bean.HasUnknownBase registry base) :
    (isBlankText base || isKnownBase registry base) = true := by
  rw [← Bool.not_eq_false]
  exact fun hopen => h base (hasUnknownBase_iff.2 ⟨hdeclares, hbase, hopen⟩)

/-- A base of which nothing is known gives way to the one that the configuration has for it. -/
theorem ownBase?_of_unknown (config : Config) (h : bean.HasUnknownBase registry base) :
    bean.ownBase? registry config = (config.baseFor? base).filter (!Java.isRootObject ·) := by
  obtain ⟨hdeclares, hbase, hopen⟩ := hasUnknownBase_iff.1 h
  simp only [ownBase?, hdeclares, if_true, hbase, Option.bind_some, settledBase?, hopen,
    bne_and_isRootObject, Config.baseFor?]
  rfl

/-- Any other base stays, unless it is the class that every class extends. -/
theorem ownBase?_of_known (config : Config) (h : ∀ base, ¬ bean.HasUnknownBase registry base) :
    bean.ownBase? registry config = bean.base.filter (!Java.isRootObject ·) := by
  unfold ownBase?
  split
  · next hdeclares =>
    cases hbase : bean.base with
    | none => rfl
    | some base =>
      have hknown := blank_or_known_of_not_hasUnknownBase hdeclares hbase h
      simp only [Option.bind_some, settledBase?, hknown, if_true, bne_and_isRootObject]
  · simp only [bne_and_isRootObject]

/-- No bean is left with the class that every class extends. -/
theorem isRootObject_of_ownBase? (h : bean.ownBase? registry config = some base) :
    Java.isRootObject base = false := by
  have hfilter : ∃ before : Option String,
      bean.ownBase? registry config = before.filter (!Java.isRootObject ·) := by
    by_cases hunknown : ∃ base, bean.HasUnknownBase registry base
    · obtain ⟨_, hunknown⟩ := hunknown
      exact ⟨_, ownBase?_of_unknown config hunknown⟩
    · exact ⟨_, ownBase?_of_known config (not_exists.1 hunknown)⟩
  obtain ⟨before, hbefore⟩ := hfilter
  rw [hbefore, Option.filter_eq_some_iff] at h
  simpa using h.2

/-- A class that takes the default base is no helper, and the default base is not the class that every class
extends. -/
theorem of_takesDefaultBase (h : bean.takesDefaultBase registry config = true) :
    bean.kind = .javaClass ∧ bean.isHelper = false ∧ Java.isRootObject config.defaultBase = false := by
  simp only [takesDefaultBase, lacksBase, Bool.and_eq_true, beq_iff_eq, Bool.not_eq_true'] at h
  exact ⟨h.1.1.1.1.2, h.1.1.2, h.1.2⟩

/-! ## The base in the end -/

variable (roots : Roots)

/-- In the end no bean has the class that every class extends as its base. -/
theorem simpleName_base_ne (h : (Pass.bases.onBean config roots registry bean).base = some base) :
    Java.simpleName base ≠ "Object" := by
  rw [Pass.base_bases] at h
  split at h
  · next htakes =>
    cases h
    exact simpleName_ne_of_isRootObject (of_takesDefaultBase htakes).2.2
  · exact simpleName_ne_of_isRootObject (isRootObject_of_ownBase? h)

/-- In the end the base of a declaration is accounted for. -/
theorem isAccountedFor_base (hdeclares : bean.declaresBase = true)
    (h : (Pass.bases.onBean config roots registry bean).base = some base) :
    IsAccountedFor registry config base := by
  rw [Pass.base_bases] at h
  split at h
  · next htakes =>
    obtain rfl := Option.some.inj h
    cases hdefault : config.defaultBaseClass with
    | none =>
      have hne := (takesDefaultBase_eq_true htakes).1
      rw [Config.defaultBase, hdefault] at hne
      exact absurd (by decide) hne
    | some value =>
      rw [Config.defaultBase, hdefault]
      exact .default hdefault
  · by_cases hunknown : ∃ declared, bean.HasUnknownBase registry declared
    · obtain ⟨declared, hunknown⟩ := hunknown
      rw [ownBase?_of_unknown config hunknown, Option.filter_eq_some_iff] at h
      obtain ⟨value, hvalue, rfl⟩ := exists_of_baseFor? h.1
      exact .replacement hvalue
    · rw [ownBase?_of_known config (not_exists.1 hunknown), Option.filter_eq_some_iff] at h
      by_cases hblank : isBlankText base = true
      · exact .blank hblank
      · by_cases hmember : registry.contains base = true
        · exact .member hmember
        · refine .qualified (Decidable.byContradiction fun hdot => hunknown ⟨base, ?_⟩)
          exact ⟨hdeclares, h.1, by simpa using hblank, by simpa using hmember, hdot⟩

/-- A base that is dropped is noted. -/
theorem unresolvedBases_of_dropsBase (h : bean.DropsBase registry config base) :
    (Pass.bases.onBean config roots registry bean).unresolvedBases = bean.unresolvedBases ++ [base] := by
  obtain ⟨hdeclares, hbase, hopen⟩ := hasUnknownBase_iff.1 h.toHasUnknownBase
  have hnone : (config.interfaceExtendsMappings.get? base).bind nonBlank? = none :=
    baseFor?_eq_none_iff.2 h.unmapped
  rw [Pass.onBean, unresolvedBases_withBase registry config hdeclares hbase, hopen, hnone]
  rfl

/-- Nothing is noted of a bean whose base is not dropped. -/
theorem unresolvedBases_of_not_dropsBase (h : ∀ base, ¬ bean.DropsBase registry config base) :
    (Pass.bases.onBean config roots registry bean).unresolvedBases = bean.unresolvedBases := by
  rw [Pass.onBean]
  cases hbase : bean.base with
  | none => exact unresolvedBases_withBase_of_none registry config hbase
  | some base =>
    by_cases hdeclares : bean.declaresBase = true
    · rw [unresolvedBases_withBase registry config hdeclares hbase]
      split
      · exact List.append_nil _
      · next hopen =>
        rw [if_neg, List.append_nil]
        intro hnone
        have hunknown : bean.HasUnknownBase registry base :=
          hasUnknownBase_iff.2 ⟨hdeclares, hbase, by simpa using hopen⟩
        exact h base { hunknown with unmapped := baseFor?_eq_none_iff.1 hnone }
    · rw [withBase_fst, if_neg hdeclares, unresolvedBases_withDefaultBase, unresolvedBases_withoutRootBase]

/-- A bean without a base stays without one if it does not take the default base. -/
theorem base_of_getD_eq_empty (hkept : bean.takesDefaultBase registry config = false)
    (h : bean.base.getD "" = "") :
    (Pass.bases.onBean config roots registry bean).base = bean.base := by
  have hempty : ∀ base, bean.base = some base → base = "" := fun base hbase => by
    rwa [hbase] at h
  have hknown : ∀ base, ¬ bean.HasUnknownBase registry base := by
    intro base hunknown
    have hblank := hunknown.nonblank
    rw [hempty base hunknown.base_eq] at hblank
    cases hblank
  rw [Pass.base_bases, hkept, if_neg Bool.false_ne_true, ownBase?_of_known config hknown]
  cases hbase : bean.base with
  | none => rfl
  | some base =>
    rw [hempty base hbase]
    rfl

/-- The last pass settles the base of a bean. -/
theorem settlesBase_onBean (registry : Registry) (config : Config) (bean : Bean) :
    SettlesBase registry config bean (Pass.bases.onBean config roots registry bean) where
  name := (Pass.bases.keepsDeclaration_onBean config roots registry bean).name
  simpleName_ne _ h := simpleName_base_ne roots h
  accounted hdeclares _ h := isAccountedFor_base roots hdeclares h
  noted _ h := unresolvedBases_of_dropsBase roots h
  notNoted h := unresolvedBases_of_not_dropsBase roots h
  withoutBase hkind h := by
    refine base_of_getD_eq_empty roots (Bool.eq_false_iff.2 fun htakes => ?_) h
    obtain ⟨hclass, hhelper, -⟩ := of_takesDefaultBase htakes
    rcases hkind with hkind | hkind
    · exact hkind hclass
    · rw [hhelper] at hkind
      cases hkind

end Bean

end

/-- **What the last pass leaves of bases.** No bean has the class that every class extends as its base. The base
of a declaration, if there is one, is blank or qualified or in the registry, or it comes from the configuration.
The bases that are dropped are noted, each with its bean, and nothing else is. Enums, interfaces and helpers get
no base. -/
theorem forall₂_settlesBase_bases (config : Config) (roots : Roots) (registry : Registry) :
    List.Forall₂ (SettlesBase registry config) registry.beans
      (Pass.bases.run config roots registry).1.beans := by
  rw [Pass.beans_run, List.forall₂_map_right_iff, List.forall₂_same]
  exact fun bean _ => bean.settlesBase_onBean roots registry config

end BeanGen
