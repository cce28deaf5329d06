import BeanGen.Proofs.Java.Heritage
import BeanGen.Proofs.Render.Nesting
import Mathlib

/-!
# The kinds of types in heritage clauses

Interfaces become classes, and the names that a declaration extends or implements are taken over
without a look at what they denote. So a name of a heritage clause that denotes a type of the same run
denotes a class, or an enum where one is declared, and never an interface
(`followsDeclaration_of_mem_outputs`). Behind `implements` this is always the wrong kind: the clauses of
a run respect the kinds of Java exactly when no `implements` clause names a type of the run and no class
extends an enum.
-/

namespace BeanGen

open Java (DeclaredType Implements Extends RespectsKinds)

/-- The bean of an enum is that of an enum declaration. -/
theorem MadeFrom.exists_enum {entries : List (String × Source.Declaration)} {bean : Bean}
    (h : MadeFrom entries bean) (hkind : bean.kind = .javaEnum) :
    ∃ path decl, (path, .ofEnum decl) ∈ entries ∧ decl.name = bean.name := by
  cases h with
  | @declared path decl hdecl =>
    cases decl with
    | ofEnum decl => exact ⟨path, decl, hdecl, rfl⟩
    | ofInterface | ofClass => cases hkind
    | ofAlias decl =>
      simp only [Source.Declaration.bean] at hkind
      split at hkind <;> cases hkind
  | helper => cases hkind

/-- The kind of a declared type is the one that its declaration calls for: a class, or an enum where an
enum of its name is declared. -/
def Java.DeclaredType.FollowsDeclaration (files : Source.Files) (type : DeclaredType) : Prop :=
  type.kind = .javaClass ∨
    type.kind = .javaEnum ∧
      ∃ path decl, (path, .ofEnum decl) ∈ files.declarations ∧ type.path = [decl.name]

section
variable (config : Config) (roots : Roots) (files : Source.Files) (outputDir : String)

/-- Every type in the files of a run is a class, or an enum where one is declared. -/
theorem followsDeclaration_of_mem_outputs {output : String × Java.SourceUnit} {type : DeclaredType}
    (houtput : output ∈ sourceUnits config roots files outputDir)
    (htype : type ∈ output.2.declaredTypes) : type.FollowsDeclaration files := by
  obtain ⟨bean, hbean, -, rfl⟩ := Writer.mem_outputs.1 houtput
  rw [registry_runWriter, beans_refinedBeans] at hbean
  obtain ⟨declared, hdeclared, rfl⟩ := List.mem_map.1 hbean
  have hmade := Registry.madeFrom_of_mem hdeclared
  have hkeeps := declared.keepsDeclaration_settled config roots (Registry.ofFiles files)
  generalize declared.settled config roots (Registry.ofFiles files) = bean at htype hkeeps
  generalize runWriter config roots files = writer at htype
  unfold Java.SourceUnit.declaredTypes Writer.unit Writer.typeDecl at htype
  cases hkind : bean.kind with
  | javaClass =>
    rw [hkind] at htype
    obtain ⟨entry, -, rfl⟩ := List.mem_map.1 htype
    exact .inl rfl
  | javaInterface => exact absurd (hkeeps.kind.symm.trans hkind) hmade.kind_ne_javaInterface
  | javaEnum =>
    rw [hkind] at htype
    obtain rfl := List.mem_singleton.1 htype
    obtain ⟨path, decl, hdecl, hname⟩ := hmade.exists_enum (hkeeps.kind.symm.trans hkind)
    refine .inr ⟨rfl, path, decl, hdecl, ?_⟩
    rw [hname]
    exact congrArg ([·]) hkeeps.name

/-- A type that a heritage clause of a run names is a class, or an enum where one is declared. The
clauses respect the kinds of Java exactly when none implements a type of the run and none extends an
enum of the run. -/
theorem heritage_kinds :
    (∀ clause type,
      Implements ((sourceUnits config roots files outputDir).map (·.2)) clause type ∨
          Extends ((sourceUnits config roots files outputDir).map (·.2)) clause type →
        type.FollowsDeclaration files) ∧
    (RespectsKinds ((sourceUnits config roots files outputDir).map (·.2)) ↔
      ∀ clause type,
        ¬Implements ((sourceUnits config roots files outputDir).map (·.2)) clause type ∧
          (Extends ((sourceUnits config roots files outputDir).map (·.2)) clause type →
            type.kind ≠ .javaEnum)) := by
  have hfollows : ∀ {clause type},
      Java.IsHeritageOf ((sourceUnits config roots files outputDir).map (·.2)) clause type →
        type.FollowsDeclaration files := by
    rintro clause type ⟨-, unit, hunit, htype⟩
    obtain ⟨output, houtput, rfl⟩ := List.mem_map.1 hunit
    exact followsDeclaration_of_mem_outputs config roots files outputDir houtput htype
  refine ⟨fun clause type h => h.elim (fun h => hfollows h.1) fun h => hfollows h.1, ?_⟩
  constructor
  · intro h clause type
    refine ⟨fun himplements => ?_, fun hextends henum => ?_⟩
    · have hinterface := (h clause type).1 himplements
      rcases hfollows himplements.1 with hclass | ⟨henum, -⟩
      · rw [hinterface] at hclass
        cases hclass
      · rw [hinterface] at henum
        cases henum
    · have hclass := (h clause type).2 hextends
      rw [henum] at hclass
      cases hclass
  · intro h clause type
    refine ⟨fun himplements => absurd himplements (h clause type).1, fun hextends => ?_⟩
    rcases hfollows hextends.1 with hclass | ⟨henum, -⟩
    · exact hclass
    · exact absurd henum ((h clause type).2 hextends)

end

/-- A class that implements a declared interface: `interface A {}` and `class B implements A {}`. -/
def implementedInterface : Source.Files :=
  [{ path := "/p/a.ts"
     interfaces := [{ name := "A" }]
     classes := [{ name := "B", implements := ["A"] }] }]

/-- Not all clauses respect the kinds of Java: the class implements what has become a class. -/
theorem not_forall_respectsKinds :
    ¬∀ (config : Config) (roots : Roots) (files : Source.Files) (outputDir : String),
      RespectsKinds ((sourceUnits config roots files outputDir).map (·.2)) := by
  intro h
  have hrespects := h default ⟨[], []⟩ implementedInterface "out"
  rw [sourceUnits, Writer.map_snd_outputs] at hrespects
  have hunits : ((runWriter default ⟨[], []⟩ implementedInterface).emitted.map
      (runWriter default ⟨[], []⟩ implementedInterface).unit).map
        (fun unit => (unit.declaredTypes, unit.heritage)) =
      [([⟨"", ["A"], .javaClass⟩], [⟨"", ["A"], none, []⟩]),
        ([⟨"", ["B"], .javaClass⟩], [⟨"", ["B"], none, ["A"]⟩])] := by
    cbv
  generalize (runWriter default ⟨[], []⟩ implementedInterface).emitted.map
    (runWriter default ⟨[], []⟩ implementedInterface).unit = units at hrespects hunits
  obtain ⟨unitA, hunitA, hpartsA⟩ := List.mem_map.1 (hunits ▸ List.mem_cons_self)
  obtain ⟨unitB, hunitB, hpartsB⟩ :=
    List.mem_map.1 (hunits ▸ List.mem_cons_of_mem _ List.mem_cons_self)
  have htype : ⟨"", ["A"], .javaClass⟩ ∈ unitA.declaredTypes := by
    rw [(Prod.mk.inj hpartsA).1]
    exact List.mem_cons_self
  have hclause : ⟨"", ["B"], none, ["A"]⟩ ∈ unitB.heritage := by
    rw [(Prod.mk.inj hpartsB).2]
    exact List.mem_cons_self
  have hinterface := (hrespects _ _).1
    ⟨⟨⟨unitB, hunitB, hclause⟩, unitA, hunitA, htype⟩, "A", by decide, .inl (by decide)⟩
  cases hinterface

end BeanGen
