import BeanGen.Proofs.Refine.Frame
import BeanGen.Proofs.Text.Blank

/-!
# What becomes of a declared base

Of the five passes two change a base: the qualification of type names, and the last pass, which settles
it. `Bean.prepared` is a bean in front of the last pass. There a base that is blank or known stays, and
any other is replaced by the configuration or noted; then the class that every class extends is taken
away, and a class that is left without a base gets the default one (`base_withBase`,
`unresolvedBases_withBase`).
-/

namespace BeanGen

open Text

/-- The bean after all passes but the last. -/
def Bean.prepared (config : Config) (roots : Roots) (registry : Registry) (bean : Bean) : Bean :=
  [Pass.packages, .enumInterfaces, .typeNames, .fieldTypes].foldl
    (fun bean pass => pass.onBean config roots registry bean) bean

section
variable (config : Config) (roots : Roots) (registry : Registry) (bean : Bean)

/-- Only two passes change a base. -/
theorem Pass.base_onBean {pass : Pass} (hnames : pass ≠ .typeNames) (hbases : pass ≠ .bases) :
    (pass.onBean config roots registry bean).base = bean.base := by
  cases pass with
  | packages => exact Bean.placed_frame Bean.base (fun _ _ => rfl) bean
  | enumInterfaces => exact Bean.withEnumInterface_frame Bean.base (fun _ _ => rfl) _ bean
  | typeNames => exact absurd rfl hnames
  | fieldTypes => rfl
  | bases => exact absurd rfl hbases

/-- Only the last pass notes a base. -/
theorem Pass.unresolvedBases_onBean {pass : Pass} (hbases : pass ≠ .bases) :
    (pass.onBean config roots registry bean).unresolvedBases = bean.unresolvedBases := by
  cases pass with
  | packages => exact Bean.placed_frame Bean.unresolvedBases (fun _ _ => rfl) bean
  | enumInterfaces => exact Bean.withEnumInterface_frame Bean.unresolvedBases (fun _ _ => rfl) _ bean
  | typeNames => exact Pass.typeNames_frame Bean.unresolvedBases (fun _ _ _ _ _ _ _ _ => rfl) bean
  | fieldTypes => rfl
  | bases => exact absurd rfl hbases

/-- Qualifying type names replaces the base where the table changes it. -/
theorem Pass.base_typeNames :
    (Pass.typeNames.onBean config roots registry bean).base =
      (TypeText.substitute? config.typeMappings bean.base).or bean.base := by
  unfold Pass.onBean
  dsimp only
  split
  · next hempty =>
    have hnone : TypeText.substitute? config.typeMappings bean.base = none := by
      cases hbase : bean.base with
      | none => rfl
      | some base =>
        rw [TypeText.substitute?, Option.bind_some, TypeText.substituteText?,
          if_pos (by rw [hempty, Bool.or_true])]
        rfl
    rw [hnone, Option.none_or]
  · unfold Bean.withTypeNames substitutedReference
    cases TypeText.substitute? config.typeMappings bean.base <;> rfl

namespace Bean

/-- The last pass settles the base. -/
theorem refined_eq :
    bean.refined config roots registry =
      ((bean.prepared config roots registry).withBase registry config).1 := rfl

/-- The passes before the last keep what the declaration says. -/
theorem keepsDeclaration_prepared :
    KeepsDeclaration bean (bean.prepared config roots registry) :=
  Pass.keepsDeclaration_foldl config roots registry bean _

/-- In front of the last pass the base is as declared, but for qualified type names. -/
theorem base_prepared :
    (bean.prepared config roots registry).base =
      (TypeText.substitute? config.typeMappings bean.base).or bean.base := by
  simp only [prepared, List.foldl_cons, List.foldl_nil]
  rw [Pass.base_onBean _ _ _ _ (by decide) (by decide), Pass.base_typeNames,
    Pass.base_onBean _ _ _ _ (by decide) (by decide), Pass.base_onBean _ _ _ _ (by decide) (by decide)]

/-- In front of the last pass no base has been noted that was not noted before. -/
theorem unresolvedBases_prepared :
    (bean.prepared config roots registry).unresolvedBases = bean.unresolvedBases := by
  simp only [prepared, List.foldl_cons, List.foldl_nil]
  rw [Pass.unresolvedBases_onBean _ _ _ _ (by decide), Pass.unresolvedBases_onBean _ _ _ _ (by decide),
    Pass.unresolvedBases_onBean _ _ _ _ (by decide), Pass.unresolvedBases_onBean _ _ _ _ (by decide)]

end Bean

end

/-! ## The last pass -/

namespace Bean

section
variable (registry : Registry) (config : Config) {bean : Bean} {base : String}

/-- A base stays that is blank or known; any other is replaced as configured. -/
theorem base_withKnownBase (table : Config.Table) (h : bean.base = some base) :
    (bean.withKnownBase registry table).1.base =
      if isBlankText base || isKnownBase registry base then some base
      else (table.get? base).bind nonBlank? := by
  unfold withKnownBase
  rw [h]
  dsimp only
  split
  · exact h
  · split
    · next new hnew => rw [hnew]
    · next hnone => rw [hnone]

/-- A base is noted that is neither blank nor known and has no replacement. -/
theorem unresolvedBases_withKnownBase (table : Config.Table) (h : bean.base = some base) :
    (bean.withKnownBase registry table).1.unresolvedBases =
      bean.unresolvedBases ++
        if isBlankText base || isKnownBase registry base then []
        else if (table.get? base).bind nonBlank? = none then [base] else [] := by
  unfold withKnownBase
  rw [h]
  dsimp only
  split
  · exact (List.append_nil _).symm
  · split
    · next new hnew => simp [hnew]
    · next hnone => simp [hnone]

/-- The class that every class extends does not stay as a base. -/
theorem base_withoutRootBase (bean : Bean) :
    bean.withoutRootBase.1.base =
      bean.base.filter fun base => !(base != "" && Java.isRootObject base) := by
  unfold withoutRootBase
  cases h : bean.base with
  | none => exact h
  | some base =>
    dsimp only
    rw [Option.filter_some]
    split
    · next hroot => rw [hroot, if_neg (by decide)]
    · next hkept => rw [Bool.eq_false_iff.2 hkept, if_pos (by decide), h]

/-- Taking the class away that every class extends is not noted. -/
theorem unresolvedBases_withoutRootBase (bean : Bean) :
    bean.withoutRootBase.1.unresolvedBases = bean.unresolvedBases := by
  unfold withoutRootBase
  split
  · split <;> rfl
  · rfl

/-- A class that lacks a base gets the default one. -/
theorem base_withDefaultBase (default : String) (bean : Bean) :
    (bean.withDefaultBase registry default).1.base =
      if bean.lacksBase default then some default else bean.base := by
  unfold withDefaultBase
  split <;> rfl

/-- Giving the default base is not noted. -/
theorem unresolvedBases_withDefaultBase (default : String) (bean : Bean) :
    (bean.withDefaultBase registry default).1.unresolvedBases = bean.unresolvedBases := by
  unfold withDefaultBase
  split <;> rfl

/-- The base that a declared one leads to, as far as the default base is left aside. -/
def settledBase? (base : String) : Option String :=
  (if isBlankText base || isKnownBase registry base then some base
    else (config.interfaceExtendsMappings.get? base).bind nonBlank?).filter
      fun base => !(base != "" && Java.isRootObject base)

/-- A base is settled as it is or as the trimmed text that replaces it. -/
theorem eq_or_trimmed_of_settledBase? {settled : String}
    (h : settledBase? registry config base = some settled) :
    settled = base ∨ trimmed settled = settled := by
  have hsettled := (Option.filter_eq_some_iff.1 h).1
  split at hsettled
  · cases hsettled
    exact .inl rfl
  · obtain ⟨new, -, hnew⟩ := Option.bind_eq_some_iff.1 hsettled
    exact .inr (trimmed_of_nonBlank? hnew)

/-- The last pass leads a declared base to where it is settled. Only where nothing is left of it, the
default base takes its place, which is never the class that every class extends. -/
theorem base_withBase (hdeclares : bean.declaresBase = true) (h : bean.base = some base) :
    (bean.withBase registry config).1.base = settledBase? registry config base ∨
      (settledBase? registry config base).getD "" = "" ∧
        ∃ default, (bean.withBase registry config).1.base = some default ∧
          trimmed default = default ∧ Java.isRootObject default = false := by
  have hsettled : (bean.withKnownBase registry config.interfaceExtendsMappings).1.withoutRootBase.1.base =
      settledBase? registry config base := by
    rw [base_withoutRootBase, base_withKnownBase registry _ h, settledBase?]
  rw [withBase_fst, if_pos hdeclares, base_withDefaultBase]
  split
  · next hlacks =>
    simp only [lacksBase, Bool.and_eq_true, beq_iff_eq, Bool.not_eq_true'] at hlacks
    rw [hsettled] at hlacks
    exact .inr ⟨hlacks.1.1.1.2, _, rfl, trimmed_trimmed _, hlacks.1.2⟩
  · exact .inl hsettled

/-- The last pass notes a declared base that is neither blank nor known and has no replacement. -/
theorem unresolvedBases_withBase (hdeclares : bean.declaresBase = true) (h : bean.base = some base) :
    (bean.withBase registry config).1.unresolvedBases =
      bean.unresolvedBases ++
        if isBlankText base || isKnownBase registry base then []
        else if (config.interfaceExtendsMappings.get? base).bind nonBlank? = none then [base]
        else [] := by
  rw [withBase_fst, if_pos hdeclares, unresolvedBases_withDefaultBase,
    unresolvedBases_withoutRootBase, unresolvedBases_withKnownBase registry _ h]

/-- Without a base there is nothing to note. -/
theorem unresolvedBases_withBase_of_none (h : bean.base = none) :
    (bean.withBase registry config).1.unresolvedBases = bean.unresolvedBases := by
  rw [withBase_fst, unresolvedBases_withDefaultBase, unresolvedBases_withoutRootBase]
  split
  · rw [withKnownBase, h]
  · rfl

end

end Bean

end BeanGen
