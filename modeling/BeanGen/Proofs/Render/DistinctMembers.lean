import BeanGen.Proofs.Render.DeclaredNames
import Mathlib.Data.List.Nodup

/-!
# Members that are declared twice

Of fields with one name the writer keeps the first, and it does so before it looks at the names further. That
is enough for the classes of a file: no two fields of one of them have the same name. It is not enough for an
interface, because an accessor is named after its field with the first letter in upper case, so that `a` and
`A` lead to the same accessor. And the constants of an enum do not go through this at all. Nothing else makes a
type declare a member twice (`Writer.declaresOnce_iff`).
-/

namespace BeanGen

open Java (capitalized isIdentifier)

/-- No type in the file declares a member twice: the fields of each class have different names, and so have the
accessors of an interface and the constants of an enum. -/
def Java.TypeDecl.DeclaresOnce : Java.TypeDecl → Prop
  | ofClass decl => ∀ entry ∈ decl.located [], (entry.2.fields.map (·.name)).Nodup
  | ofInterface decl => (decl.accessors.map (·.name)).Nodup
  | ofEnum decl => (decl.body.toList.flatMap fun body => body.entries.map (·.name)).Nodup

/-- No two accessors and no two constants that the bean would declare have one name: fields of an interface whose
accessors have the same name are fields of the same name, and no constant of an enum that can be declared
occurs a second time. -/
structure Bean.HasDistinctMembers (bean : Bean) : Prop where
  accessors : bean.kind = .javaInterface → ∀ field ∈ bean.fields, ∀ other ∈ bean.fields,
    isIdentifier ("get" ++ capitalized field.name) = true →
      capitalized field.name = capitalized other.name → field.name = other.name
  constants : bean.kind = .javaEnum → ∀ name, isIdentifier name = true →
    (bean.constants.map (·.name)).count name ≤ 1

/-! ## Fields -/

/-- The first elements of each key have different keys. -/
theorem Bean.nodup_map_firstByKey {α : Type} {key : α → String} {seen : List String} {as : List α} :
    ((firstByKey key seen as).map key).Nodup := by
  induction as generalizing seen with
  | nil => exact List.nodup_nil
  | cons a rest ih =>
    rw [firstByKey]
    split
    · exact ih
    · rw [List.map_cons, List.nodup_cons]
      exact ⟨fun hmem => (mem_map_firstByKey.1 hmem).2 List.mem_cons_self, ih⟩

/-- The fields without repeated ones have different names. -/
theorem Bean.nodup_names_distinctFields (bean : Bean) : (bean.distinctFields.map (·.name)).Nodup :=
  nodup_map_firstByKey

/-! ## Constants and accessors -/

/-- The names that can be declared are different exactly when none of them occurs twice. -/
theorem nodup_filter_isIdentifier_iff {names : List String} :
    (names.filter isIdentifier).Nodup ↔ ∀ name, isIdentifier name = true → names.count name ≤ 1 := by
  rw [List.nodup_iff_count_le_one]
  refine forall_congr' fun name => ?_
  by_cases hname : isIdentifier name = true
  · rw [List.count_filter hname]
    exact ⟨fun h _ => h, fun h => h hname⟩
  · have hnone : (names.filter isIdentifier).count name = 0 :=
      List.count_eq_zero.2 fun hmem => hname (List.mem_filter.1 hmem).2
    rw [hnone]
    exact iff_of_true (Nat.zero_le 1) fun h => absurd h hname

/-- The accessors of an interface have different names exactly when fields whose accessors have the same name
have the same name themselves. -/
theorem Writer.nodup_names_interfaceDecl_iff (writer : Writer) (bean : Bean) :
    ((writer.interfaceDecl bean).accessors.map (·.name)).Nodup ↔
      ∀ field ∈ bean.fields, ∀ other ∈ bean.fields,
        isIdentifier ("get" ++ capitalized field.name) = true →
          capitalized field.name = capitalized other.name → field.name = other.name := by
  rw [names_interfaceDecl, List.filter_map,
    List.nodup_map_iff_inj_on (bean.nodup_names_distinctFields.filter _)]
  simp only [List.mem_filter, Function.comp_apply, Bean.mem_names_distinctFields, String.append_right_inj,
    and_imp, List.forall_mem_map]
  constructor
  · intro h field hfield other hother hcheck hsame
    exact h field hfield hcheck other hother (by rwa [← hsame]) hsame
  · intro h field hfield hcheck other hother _ hsame
    exact h field hfield other hother hcheck hsame

/-- **Members that are declared twice.** No type in the file of a bean declares a member twice, unless two
fields of an interface lead to one accessor or a constant of an enum occurs twice. -/
theorem Writer.declaresOnce_iff (registry : Registry) (config : Config) (bean : Bean) :
    ((Writer.of registry config).unit bean).type.DeclaresOnce ↔ bean.HasDistinctMembers := by
  show ((Writer.of registry config).typeDecl bean).DeclaresOnce ↔ _
  unfold typeDecl
  cases hkind : bean.kind with
  | javaClass =>
    refine iff_of_true (fun entry hentry => ?_) ⟨fun h => ?_, fun h => ?_⟩
    · obtain ⟨depth, inner, -, hdecl⟩ := exists_of_mem_located hentry
      rw [hdecl, names_classDecl]
      exact inner.nodup_names_distinctFields.filter _
    · cases hkind.symm.trans h
    · cases hkind.symm.trans h
  | javaInterface =>
    dsimp only
    rw [Java.TypeDecl.DeclaresOnce, nodup_names_interfaceDecl_iff]
    refine ⟨fun h => ⟨fun _ => h, fun henum => ?_⟩, fun h => h.accessors hkind⟩
    cases hkind.symm.trans henum
  | javaEnum =>
    dsimp only
    rw [Java.TypeDecl.DeclaresOnce, names_enumDecl, nodup_filter_isIdentifier_iff]
    refine ⟨fun h => ⟨fun hinterface => ?_, fun _ => h⟩, fun h => h.constants hkind⟩
    cases hkind.symm.trans hinterface

/-- An enum that has a constant twice: `enum E { A, A }`. -/
def repeatedConstant : Bean :=
  { name := "E", kind := .javaEnum, constants := [⟨"A", none⟩, ⟨"A", none⟩] }

/-- Not every type declares its members once: the enum has the constants `A(1)` and `A(2)`. -/
theorem not_forall_declaresOnce :
    ¬∀ (registry : Registry) (config : Config), ∀ bean ∈ registry.beans,
      ((Writer.of registry config).unit bean).type.DeclaresOnce := by
  intro h
  have hnames := h ⟨[repeatedConstant], by simp⟩ default repeatedConstant List.mem_cons_self
  have hdecl : ((Writer.of ⟨[repeatedConstant], by simp⟩ default).unit repeatedConstant).type =
      .ofEnum ((Writer.of ⟨[repeatedConstant], by simp⟩ default).enumDecl repeatedConstant) := rfl
  rw [hdecl, Java.TypeDecl.DeclaresOnce, Writer.names_enumDecl] at hnames
  exact absurd hnames (by decide)

end BeanGen
