import BeanGen.Proofs.Java.Header
import BeanGen.Proofs.Java.Name
import BeanGen.Proofs.Place.Path
import BeanGen.Proofs.Refine.FinalBases
import BeanGen.Proofs.Render.Nesting

/-!
# What is put into the header comments

Three texts of a bean go into its header: the name of the source file, its own name and the bases that were
dropped. The first two have no slash, so they cannot end the comment. A dropped base is an expression of the
source as it is written there, and nothing is taken out of it. It may hold a comment or a text in quotation
marks, and with them a `*/`. The headers of all files are closed where they end exactly when no base with a
`*/` is dropped (`closesHeader_iff_dropsBase`), and this does not hold for all declarations
(`not_forall_closesHeader`).
-/

namespace BeanGen

open Text
open Java (commentEnd isIdentifier)

/-! ## Texts without a slash -/

/-- The name of a file has no slash. -/
theorem Place.notMem_fileName (path : String) : '/' ∉ (fileName path).toList := by
  rw [fileName]
  cases hlast : (pieces path).getLast? with
  | none => decide
  | some piece => exact (of_mem_pieces (List.mem_of_getLast? hlast)).1

/-- A text that passes the check for names has no slash. -/
theorem Java.slash_notMem_of_isIdentifier {name : String} (h : isIdentifier name = true) :
    '/' ∉ name.toList := by
  intro hslash
  rcases isNamePart_or_eq_of_isIdentifier h hslash with hpart | hbreak
  · exact absurd hpart (by decide)
  · exact absurd hbreak (by decide)

/-- The keyword in front of the declared name has no slash. -/
theorem Bean.slash_notMem_keyword (bean : Bean) :
    '/' ∉ ((bean.origin.map Bean.Origin.keyword).getD bean.kind.keyword).toList := by
  cases bean.origin with
  | none => cases bean.kind <;> decide
  | some origin =>
    show '/' ∉ origin.keyword.toList
    cases origin <;> decide

/-- The header of a bean is closed where it ends exactly when no dropped base has a `*/`. -/
theorem Writer.closesHeader_unit_iff (writer : Writer) {bean : Bean}
    (hname : isIdentifier bean.name = true) :
    (writer.unit bean).ClosesHeader ↔
      ∀ base ∈ bean.unresolvedBases, ¬ commentEnd <:+: base.toList := by
  have hsource : ∀ file ∈ (header bean).sourceFile, ¬ commentEnd <:+: file.toList := by
    intro file hfile
    obtain ⟨path, -, rfl⟩ := Option.map_eq_some_iff.1 hfile
    exact not_pair_infix_of_notMem (Place.notMem_fileName path)
  have hdeclared : ¬ commentEnd <:+: (header bean).declared.toList := by
    refine not_pair_infix_of_notMem ?_
    rw [header, String.toList_append, String.toList_append, List.mem_append, List.mem_append]
    rintro ((hkeyword | hblank) | hslash)
    · exact bean.slash_notMem_keyword hkeyword
    · exact absurd hblank (by decide)
    · exact Java.slash_notMem_of_isIdentifier hname hslash
  rw [Java.SourceUnit.closesHeader_iff]
  exact ⟨fun h => h.2.2, fun h => ⟨hsource, hdeclared, h⟩⟩

/-! ## The bases that a run drops -/

section
variable (config : Config) (roots : Roots) {registry : Registry} {bean : Bean} {base : String}

/-- No declaration notes a base as dropped. -/
theorem MadeFrom.unresolvedBases_eq_nil {entries : List (String × Source.Declaration)}
    (h : MadeFrom entries bean) : bean.unresolvedBases = [] := by
  cases h with
  | @declared path decl hdecl =>
    cases decl with
    | ofInterface | ofEnum | ofClass => rfl
    | ofAlias decl => simp only [Source.Declaration.bean]; split <;> rfl
  | helper => rfl

/-- The passes before the last do not change whether a declaration gives the base. -/
theorem Bean.declaresBase_prepared (bean : Bean) :
    (bean.prepared config roots registry).declaresBase = bean.declaresBase := by
  have hkeeps := bean.keepsDeclaration_prepared config roots registry
  rw [Bean.declaresBase, Bean.isHelper, hkeeps.origin, hkeeps.owner]
  rfl

/-- Which base is dropped does not depend on links. -/
theorem Bean.dropsBase_linked_iff :
    ((bean.linked registry).1.prepared config roots registry).DropsBase registry config base ↔
      (bean.prepared config roots registry).DropsBase registry config base := by
  have hdeclares : ((bean.linked registry).1.prepared config roots registry).declaresBase =
      (bean.prepared config roots registry).declaresBase := by
    rw [declaresBase_prepared, declaresBase_prepared]
    rfl
  have hbase : ((bean.linked registry).1.prepared config roots registry).base =
      (bean.prepared config roots registry).base := by
    rw [base_prepared, base_prepared]
    rfl
  constructor
  · rintro ⟨⟨h, h', hnonblank, habsent, hundotted⟩, hunmapped⟩
    exact ⟨⟨hdeclares ▸ h, hbase ▸ h', hnonblank, habsent, hundotted⟩, hunmapped⟩
  · rintro ⟨⟨h, h', hnonblank, habsent, hundotted⟩, hunmapped⟩
    exact ⟨⟨hdeclares ▸ h, hbase ▸ h', hnonblank, habsent, hundotted⟩, hunmapped⟩

/-- A run notes the base that the last pass drops, and nothing else. -/
theorem Bean.mem_unresolvedBases_settled (h : bean.unresolvedBases = []) :
    base ∈ (bean.settled config roots registry).unresolvedBases ↔
      (bean.prepared config roots registry).DropsBase registry config base := by
  rw [← dropsBase_linked_iff config roots]
  have hsettled : bean.settled config roots registry = Pass.bases.onBean config roots registry
      ((bean.linked registry).1.prepared config roots registry) := rfl
  have hnone : ((bean.linked registry).1.prepared config roots registry).unresolvedBases = [] := by
    rw [unresolvedBases_prepared]
    exact h
  have hsettles := settlesBase_onBean roots registry config
    ((bean.linked registry).1.prepared config roots registry)
  rw [hsettled]
  constructor
  · intro hmem
    by_cases hdrops : ∃ other, ((bean.linked registry).1.prepared config roots registry).DropsBase
        registry config other
    · obtain ⟨other, hdrops⟩ := hdrops
      rw [hsettles.noted other hdrops, hnone, List.nil_append, List.mem_singleton] at hmem
      rwa [hmem]
    · rw [hsettles.notNoted (not_exists.1 hdrops), hnone] at hmem
      cases hmem
  · intro hdrops
    rw [hsettles.noted base hdrops]
    exact List.mem_append_right _ List.mem_cons_self

end

/-- In the files of a run the headers are closed where they end exactly when no bean with a file is left with a
dropped base that has a `*/`. -/
theorem closesHeader_outputs_iff (config : Config) (roots : Roots) (files : Source.Files)
    (outputDir : String) :
    (∀ output ∈ sourceUnits config roots files outputDir, output.2.ClosesHeader) ↔
      ∀ bean ∈ (Registry.ofFiles files).beans, (Registry.ofFiles files).isEmitted bean = true →
        ∀ base ∈ (bean.settled config roots (Registry.ofFiles files)).unresolvedBases,
          ¬ commentEnd <:+: base.toList := by
  rw [sourceUnits, Writer.forall_outputs_iff, registry_runWriter, beans_refinedBeans,
    List.forall_mem_map]
  refine forall₂_congr fun bean _ => ?_
  rw [Registry.isEmitted_settled]
  refine imp_congr_right fun hemitted => Writer.closesHeader_unit_iff _ ?_
  rw [(bean.keepsDeclaration_settled config roots _).name]
  exact (Registry.isEmitted_iff.1 hemitted).1

/-- **Where the header comments end.** The header comment of every file ends where the header ends, unless a base
with a `*/` is dropped from a bean that gets a file. Nothing else that is put into a header can end it. -/
theorem closesHeader_iff_dropsBase (config : Config) (roots : Roots) (files : Source.Files)
    (outputDir : String) :
    (∀ output ∈ sourceUnits config roots files outputDir, output.2.ClosesHeader) ↔
      ∀ bean ∈ (Registry.ofFiles files).beans, (Registry.ofFiles files).isEmitted bean = true →
        ∀ base, (bean.prepared config roots (Registry.ofFiles files)).DropsBase
            (Registry.ofFiles files) config base →
          ¬ commentEnd <:+: base.toList := by
  rw [closesHeader_outputs_iff]
  refine forall₂_congr fun bean hbean => imp_congr_right fun _ => forall_congr' fun base => ?_
  have hnone : bean.unresolvedBases = [] := (Registry.madeFrom_of_mem hbean).unresolvedBases_eq_nil
  rw [Bean.mem_unresolvedBases_settled config roots hnone]

/-- A class that extends what a call yields, with a comment in the call: `class A extends f/*c*/() {}`. -/
def commentedBase : Source.Files :=
  [{ path := "/p/a.ts", classes := [{ name := "A", base := some "f/*c*/()" }] }]

/-- Not every header is closed where it ends: the base is dropped, and the comment goes with it into the
header. -/
theorem not_forall_closesHeader :
    ¬∀ (config : Config) (roots : Roots) (files : Source.Files) (outputDir : String),
      ∀ output ∈ sourceUnits config roots files outputDir, output.2.ClosesHeader := by
  intro h
  have hclosed := (closesHeader_outputs_iff default ⟨["/p"], []⟩ commentedBase "out").1
    (h default ⟨["/p"], []⟩ commentedBase "out")
  have hbean : ∃ bean ∈ (Registry.ofFiles commentedBase).beans,
      (Registry.ofFiles commentedBase).isEmitted bean = true ∧
        bean.unresolvedBases = [] ∧ bean.declaresBase = true ∧ bean.base = some "f/*c*/()" := by
    decide
  obtain ⟨bean, hbean, hemitted, hnone, hdeclares, hbase⟩ := hbean
  refine hclosed bean hbean hemitted "f/*c*/()" ?_ (by decide)
  rw [Bean.mem_unresolvedBases_settled _ _ hnone]
  refine ⟨⟨?_, ?_, by decide, by decide, by decide⟩, fun value hvalue => by cases hvalue⟩
  · rw [Bean.declaresBase_prepared, hdeclares]
  · have hkept : TypeText.substitute? (default : Config).typeMappings (some "f/*c*/()") = none := by cbv
    rw [Bean.base_prepared, hbase, hkept, Option.none_or]

end BeanGen
