import BeanGen.Proofs.Refine.Bases
import BeanGen.Proofs.Render.Files
import BeanGen.Proofs.Render.Qualify
import BeanGen.Proofs.TypeText.Substitution

/-!
# What a file says of a declared base

A declared base is accounted for when the class extends it under a qualified name, or when the header
notes that it was dropped (`Writer.AccountsForBase`). The last pass settles a base by looking at its
whole text, and the writer drops it again, without a note, by looking at the last name of what it would
write. The two do not fit together: a base is lost that looks qualified and is not, and one that looks
like the class every class extends. A base is accounted for exactly when it is not blank, no type name
in it is qualified, and, if it counts as known, it is written as a qualified name of something else than
that class (`Writer.not_accountsForBase_of_substitute?`, `Writer.accountsForBase_iff_of_substitute?`).
-/

namespace BeanGen

open Text
open Java (isDottedName isIdentifier isRootObject)

/-- The first type that a declaration extends, as written. -/
def Source.Declaration.firstBase? : Source.Declaration → Option String
  | ofInterface decl => decl.bases.head?
  | ofClass decl => decl.base
  | ofEnum _ => none
  | ofAlias _ => none

/-- The type behind the `extends` of the class in a file. -/
def Java.SourceUnit.headBase? (unit : Java.SourceUnit) : Option String :=
  match unit.type with
  | .ofClass decl => decl.base
  | .ofInterface _ => none
  | .ofEnum _ => none

/-- The line of a header that notes the dropped bases. -/
def Java.Header.noteLine (header : Java.Header) : String :=
  " * NOTE: Unresolved TS extends: " ++ ", ".intercalate header.droppedBases

/-- A header that has dropped bases notes them. -/
theorem Java.Header.noteLine_mem_lines {header : Java.Header} (h : header.droppedBases ≠ []) :
    header.noteLine ∈ header.lines := by
  unfold lines noteLine
  dsimp only
  rw [if_neg (by simpa using h)]
  simp

namespace Writer

/-- The file of a bean accounts for a base: the class extends it, under a qualified name, or the header
names it among the dropped ones. -/
def AccountsForBase (writer : Writer) (bean : Bean) (base : String) : Prop :=
  (bean.base = some base ∧
    ∃ written, (writer.unit bean).headBase? = some written ∧ isDottedName written = true) ∨
  (base ∈ (writer.unit bean).header.droppedBases ∧
    (writer.unit bean).header.noteLine ∈ (writer.unit bean).header.lines)

section
variable {writer : Writer} {bean : Bean} {base : String}

/-- The class in the file of a bean extends the base of the bean, unless the writer leaves it out. -/
theorem headBase?_unit (hkind : bean.kind = .javaClass) :
    (writer.unit bean).headBase? = writer.baseOf? bean.package bean := by
  have htype : (writer.unit bean).type =
      .ofClass (writer.classDecl bean.package writer.registry.beans.length bean) := by
    show writer.typeDecl bean = _
    rw [typeDecl, hkind]
  rw [Java.SourceUnit.headBase?, htype]
  exact writer.base_classDecl _ _ _

/-- A base is written as a qualified name when it is not blank, is not the class that every class
extends, and has such a name. -/
theorem exists_isDottedName_baseOf? (hbase : bean.base = some base) :
    (∃ written, writer.baseOf? bean.package bean = some written ∧ isDottedName written = true) ↔
      isBlankText base = false ∧ isRootObject base = false ∧
        isDottedName (writer.qualify bean.package bean.name base) = true := by
  rw [baseOf?, hbase, Option.filter_some]
  by_cases hblank : isBlankText base = true
  · simp [hblank]
  · rw [Bool.not_eq_true] at hblank
    rw [hblank, Bool.not_false, if_pos rfl, Option.map_some, Option.filter_some]
    constructor
    · rintro ⟨written, hwritten, hdotted⟩
      split at hwritten
      · next hkept =>
        cases hwritten
        rw [Bool.and_eq_true, Bool.not_eq_true', isRootObject_qualify hblank hdotted] at hkept
        exact ⟨rfl, hkept.1, hdotted⟩
      · cases hwritten
    · rintro ⟨-, hroot, hdotted⟩
      refine ⟨_, if_pos ?_, hdotted⟩
      rw [isRootObject_qualify hblank hdotted, hroot, Bool.not_false, Bool.true_and]
      exact Java.isIdentifier_of_isName (Java.isName_simpleName hdotted)

/-- A class accounts for its own base when this is written as a qualified name, and for every base that
has been noted. -/
theorem accountsForBase_iff_of_kind (hkind : bean.kind = .javaClass) :
    writer.AccountsForBase bean base ↔
      (bean.base = some base ∧ isBlankText base = false ∧ isRootObject base = false ∧
        isDottedName (writer.qualify bean.package bean.name base) = true) ∨
      base ∈ bean.unresolvedBases := by
  have hnoted : (writer.unit bean).header.droppedBases = bean.unresolvedBases := rfl
  rw [AccountsForBase, headBase?_unit hkind, hnoted]
  refine or_congr (and_congr_right fun hbase => exists_isDottedName_baseOf? hbase) ?_
  exact and_iff_left_of_imp fun hmem => Java.Header.noteLine_mem_lines (List.ne_nil_of_mem hmem)

end

section
variable (config : Config) (roots : Roots) (registry : Registry) (writer : Writer) {bean : Bean}
  {base : String} (hkind : bean.kind = .javaClass) (hdeclares : bean.declaresBase = true)
  (hnoted : bean.unresolvedBases = []) (hbase : bean.base = some base)
include hkind hdeclares hnoted hbase

/-- A base in which a type name is qualified is not accounted for. -/
theorem not_accountsForBase_of_substitute? {new : String}
    (htypes : config.typeMappings.get? base = none)
    (hnew : TypeText.substitute? config.typeMappings (some base) = some new) :
    ¬writer.AccountsForBase (bean.refined config roots registry) base := by
  have hkeeps := bean.keepsDeclaration_prepared config roots registry
  have hprepared : (bean.prepared config roots registry).base = some new := by
    rw [Bean.base_prepared, hbase, hnew]
    rfl
  have hne := TypeText.ne_of_substitute? hnew
  have hdeclares' : (bean.prepared config roots registry).declaresBase = true := by
    rwa [Bean.declaresBase, Bean.isHelper, hkeeps.origin, hkeeps.owner]
  rw [accountsForBase_iff_of_kind ((bean.keepsDeclaration_refined config roots registry).kind.trans
    hkind)]
  rintro (⟨hrefined, hblank, -, hdotted⟩ | hmem)
  · -- the expression is a name, and the name is in the table only without the white space around it
    have hspelled := TypeText.substitute?_of_outline
      (Writer.outline_of_isDottedName_qualify hblank hdotted) hnew
    have huntrimmed : trimmed base ≠ base := by
      intro htrimmed
      rw [htrimmed, htypes] at hspelled
      cases hspelled
    rw [Bean.refined_eq] at hrefined
    rcases Bean.base_withBase registry config hdeclares' hprepared with hsettled | ⟨-, default, hdefault⟩
    · rw [hrefined] at hsettled
      rcases Bean.eq_or_trimmed_of_settledBase? registry config hsettled.symm with heq | htrimmed
      · exact hne heq.symm
      · exact huntrimmed htrimmed
    · rw [hrefined] at hdefault
      obtain rfl := Option.some.inj hdefault.1
      exact huntrimmed hdefault.2.1
  · rw [Bean.refined_eq, Bean.unresolvedBases_withBase registry config hdeclares' hprepared,
      Bean.unresolvedBases_prepared, hnoted, List.nil_append] at hmem
    split at hmem
    · cases hmem
    · split at hmem
      · exact hne (List.mem_singleton.1 hmem).symm
      · cases hmem

/-- A base in which no type name is qualified is accounted for when it is unknown, and not blank, or
written as a qualified name. -/
theorem accountsForBase_iff_of_substitute?
    (hkept : TypeText.substitute? config.typeMappings (some base) = none)
    (hbases : config.interfaceExtendsMappings.get? base = none) :
    writer.AccountsForBase (bean.refined config roots registry) base ↔
      isBlankText base = false ∧ (isKnownBase registry base = true →
        isRootObject base = false ∧
          isDottedName (writer.qualify (bean.refined config roots registry).package bean.name base) =
            true) := by
  have hkeeps := bean.keepsDeclaration_prepared config roots registry
  have hkeeps' := bean.keepsDeclaration_refined config roots registry
  have hprepared : (bean.prepared config roots registry).base = some base := by
    rw [Bean.base_prepared, hbase, hkept]
    rfl
  have hdeclares' : (bean.prepared config roots registry).declaresBase = true := by
    rwa [Bean.declaresBase, Bean.isHelper, hkeeps.origin, hkeeps.owner]
  have hunresolved : (bean.refined config roots registry).unresolvedBases =
      if isBlankText base || isKnownBase registry base then [] else [base] := by
    rw [Bean.refined_eq, Bean.unresolvedBases_withBase registry config hdeclares' hprepared,
      Bean.unresolvedBases_prepared, hnoted, hbases]
    rfl
  rw [accountsForBase_iff_of_kind (hkeeps'.kind.trans hkind), hunresolved, hkeeps'.name]
  cases hblank : isBlankText base with
  | true => simp
  | false =>
    cases hknown : isKnownBase registry base with
    | false => simp
    | true =>
      have hstays : isRootObject base = false →
          (bean.refined config roots registry).base = some base := by
        intro hroot
        have hsettled : Bean.settledBase? registry config base = some base := by
          rw [Bean.settledBase?, hblank, hknown]
          simp [hroot]
        have hnonempty : base ≠ "" := by
          rintro rfl
          cases hblank
        rw [Bean.refined_eq]
        rcases Bean.base_withBase registry config hdeclares' hprepared with heq | ⟨hempty, -⟩
        · rw [heq, hsettled]
        · rw [hsettled] at hempty
          exact absurd hempty hnonempty
      simp only [Bool.false_or, if_pos, List.not_mem_nil, or_false, true_and, true_implies]
      exact and_iff_right_of_imp fun h => hstays h.1

end

end Writer

/-! ## The first base of a declaration -/

/-- The bean of a declaration has its first base, unless this is the empty text. -/
theorem Source.Declaration.base_bean {decl : Source.Declaration} {base : String}
    (h : decl.firstBase? = some base) (path : String) :
    (decl.bean path).base = some base ∨ base = "" ∧ (decl.bean path).base = none := by
  cases decl with
  | ofInterface decl => exact .inl h
  | ofClass decl =>
    have hbean : ((ofClass decl).bean path).base = decl.base.filter (· != "") := rfl
    have hdecl : decl.base = some base := h
    rw [hbean, hdecl, Option.filter_some]
    split
    · exact .inl rfl
    · next hempty => exact .inr ⟨by simpa using hempty, rfl⟩
  | ofEnum | ofAlias => cases h

/-- A declaration with a base becomes a class that declares it, with nothing noted yet. -/
theorem Source.Declaration.spec_of_firstBase? {decl : Source.Declaration} {base : String}
    (h : decl.firstBase? = some base) (path : String) :
    (decl.bean path).kind = .javaClass ∧ (decl.bean path).declaresBase = true ∧
      (decl.bean path).unresolvedBases = [] := by
  cases decl with
  | ofInterface | ofClass => exact ⟨rfl, rfl, rfl⟩
  | ofEnum | ofAlias => cases h

/-- The file of a declaration accounts for its first base, where no mapping is given for this, exactly
when the base is not blank, no type name inside it is qualified, and, if it is a bean or holds a dot, it
does not end in the name of the class that every class extends and is written as a qualified name. -/
theorem accountsForBase_iff (config : Config) (roots : Roots) (files : Source.Files)
    (outputDir : String) {path : String} {decl : Source.Declaration} {base : String}
    (hbean : (Registry.ofFiles files).bean? decl.name = some (decl.bean path))
    (hname : isIdentifier decl.name = true) (hbase : decl.firstBase? = some base)
    (htypes : config.typeMappings.get? base = none)
    (hbases : config.interfaceExtendsMappings.get? base = none) :
    (Writer.pathOf outputDir ((decl.bean path).refined config roots (Registry.ofFiles files)),
        (runWriter config roots files).unit
          ((decl.bean path).refined config roots (Registry.ofFiles files))) ∈
      sourceUnits config roots files outputDir ∧
    ((runWriter config roots files).AccountsForBase
        ((decl.bean path).refined config roots (Registry.ofFiles files)) base ↔
      isBlankText base = false ∧
        TypeText.substitute? config.typeMappings (some base) = none ∧
        (isKnownBase (Registry.ofFiles files) base = true →
          isRootObject base = false ∧
            isDottedName ((runWriter config roots files).qualify
              ((decl.bean path).refined config roots (Registry.ofFiles files)).package decl.name
              base) = true)) := by
  refine ⟨mem_sourceUnits config roots files outputDir hbean hname, ?_⟩
  obtain ⟨hkind, hdeclares, hnoted⟩ := Source.Declaration.spec_of_firstBase? hbase path
  rcases Source.Declaration.base_bean hbase path with hown | ⟨rfl, hnone⟩
  · cases hnew : TypeText.substitute? config.typeMappings (some base) with
    | none =>
      rw [Writer.accountsForBase_iff_of_substitute? config roots _ _ hkind hdeclares hnoted hown hnew
        hbases, Source.Declaration.bean_name]
      simp only [true_and]
    | some new =>
      refine iff_of_false ?_ fun h => by cases h.2.1
      exact Writer.not_accountsForBase_of_substitute? config roots _ _ hkind hdeclares hnoted hown
        htypes hnew
  · refine iff_of_false ?_ fun h => by cases h.1
    have hkeeps := (decl.bean path).keepsDeclaration_refined config roots (Registry.ofFiles files)
    have hprepared : ((decl.bean path).prepared config roots (Registry.ofFiles files)).base = none := by
      rw [Bean.base_prepared, hnone]
      rfl
    rw [Writer.accountsForBase_iff_of_kind (hkeeps.kind.trans hkind), Bean.refined_eq,
      Bean.unresolvedBases_withBase_of_none _ _ hprepared, Bean.unresolvedBases_prepared, hnoted]
    rintro (⟨-, hblank, -⟩ | hmem)
    · cases hblank
    · cases hmem

/-- An interface that extends a qualified name: `interface A extends x.B {}`. -/
def qualifiedBase : Source.Files :=
  [{ path := "/p/a.ts", interfaces := [{ name := "A", bases := ["x.B"] }] }]

/-- The base of the interface is accounted for: the class `A` extends `x.B`. -/
theorem accountsForBase_qualifiedBase :
    ((Registry.ofFiles qualifiedBase).bean? "A" =
        some ((Source.Declaration.ofInterface { name := "A", bases := ["x.B"] }).bean "/p/a.ts") ∧
      isIdentifier "A" = true ∧
      (Source.Declaration.ofInterface { name := "A", bases := ["x.B"] }).firstBase? = some "x.B" ∧
      (default : Config).typeMappings.get? "x.B" = none ∧
      (default : Config).interfaceExtendsMappings.get? "x.B" = none) ∧
    (runWriter default ⟨[], []⟩ qualifiedBase).AccountsForBase
      (((Source.Declaration.ofInterface { name := "A", bases := ["x.B"] }).bean "/p/a.ts").refined
        default ⟨[], []⟩ (Registry.ofFiles qualifiedBase)) "x.B" := by
  have hwritten : ∀ package inside,
      isDottedName ((runWriter default ⟨[], []⟩ qualifiedBase).qualify package inside "x.B") = true := by
    intro package inside
    rw [Writer.qualify_of_outline _ _ _ (by decide) (by cbv), Writer.qualifyName_of_dot _ _ _ (by decide)]
    decide
  have hbase : (Source.Declaration.ofInterface { name := "A", bases := ["x.B"] }).firstBase? =
      some "x.B" := rfl
  have hname : isIdentifier
      (Source.Declaration.ofInterface { name := "A", bases := ["x.B"] }).name = true := by decide
  have hbean : (Registry.ofFiles qualifiedBase).bean?
      (Source.Declaration.ofInterface { name := "A", bases := ["x.B"] }).name =
        some ((Source.Declaration.ofInterface { name := "A", bases := ["x.B"] }).bean "/p/a.ts") := rfl
  have hfile := accountsForBase_iff default ⟨[], []⟩ qualifiedBase "out" hbean hname hbase rfl rfl
  exact ⟨⟨hbean, hname, hbase, rfl, rfl⟩,
    hfile.2.2 ⟨by decide, by cbv, fun _ => ⟨by decide, hwritten _ _⟩⟩⟩

/-- A class that extends what a call yields: `class A extends x.y() {}`. -/
def calledBase : Source.Files :=
  [{ path := "/p/a.ts", classes := [{ name := "A", base := some "x.y()" }] }]

/-- Not every base is accounted for: the call holds a dot, so it stays, and is no name, so it is not
written. -/
theorem not_forall_accountsForBase :
    ¬∀ (config : Config) (roots : Roots) (files : Source.Files) (path : String)
        (decl : Source.Declaration) (base : String),
      (Registry.ofFiles files).bean? decl.name = some (decl.bean path) →
      isIdentifier decl.name = true → decl.firstBase? = some base → base ∉ Java.rootObjectNames →
      config.typeMappings.get? base = none → config.interfaceExtendsMappings.get? base = none →
      (runWriter config roots files).AccountsForBase
        ((decl.bean path).refined config roots (Registry.ofFiles files)) base := by
  intro h
  have hbase : (Source.Declaration.ofClass { name := "A", base := some "x.y()" }).firstBase? =
      some "x.y()" := rfl
  have haccounts := h default ⟨[], []⟩ calledBase "/p/a.ts" _ "x.y()" rfl (by decide) hbase
    (by decide) rfl rfl
  obtain ⟨hkind, hdeclares, hnoted⟩ := Source.Declaration.spec_of_firstBase? hbase "/p/a.ts"
  have hown : ((Source.Declaration.ofClass { name := "A", base := some "x.y()" }).bean
      "/p/a.ts").base = some "x.y()" := rfl
  rw [Writer.accountsForBase_iff_of_substitute? default ⟨[], []⟩ (Registry.ofFiles calledBase)
    (runWriter default ⟨[], []⟩ calledBase) hkind hdeclares hnoted hown (by cbv) rfl] at haccounts
  have hknown : isKnownBase (Registry.ofFiles calledBase) "x.y()" = true := by decide
  have hwritten := (haccounts.2 hknown).2
  rw [Writer.qualify_of_outline _ _ _ (by decide) (by cbv),
    Writer.qualifyName_of_dot _ _ _ (by decide)] at hwritten
  exact absurd hwritten (by decide)

end BeanGen
