import BeanGen.Proofs.Render.Congruence
import BeanGen.Proofs.TypeText.Layout

/-!
# Type expressions that are written as they are

The writer looks at every type expression, also at those that were meant to be final. It keeps a name
that is no other than the reference it would write (`Writer.KeepsName`), and it lays the expression out.
An expression is written as it stands exactly when it has this layout already and the writer keeps all
its names (`Writer.qualifyText_eq_trim_iff`).

That both are necessary is seen by counting. A name that is not kept gets a qualifier or becomes `Object`
and so gains characters that show (`Writer.ink_writtenName`), and the layout gives none of them back
(`Writer.ink_qualifyText`).
-/

namespace BeanGen.Writer

open Text
open TypeText (ink laidOut names outline)

section
variable (writer : Writer) (package inside : String)

/-! ## Names -/

/-- The name is written as it is inside class `inside` of a package. It has a dot, or it needs no import,
or it is no collection and every bean of the name is referred to by its name alone: one with a file of its
own has no package or the same, a nested one is inside its own owner or is the class itself. -/
def KeepsName (name : String) : Prop :=
  name ≠ "" ∧
    ('.' ∈ name.toList ∨ name ∈ Java.languageTypes ∨
      name ∉ Java.collectionTypes ∧ ∀ bean, writer.registry.bean? name = some bean →
        match writer.outerOf? bean with
        | none => bean.package = "" ∨ bean.package = package
        | some outer => inside = outer.name ∨ inside = name)

/-- A text with something and a dot in front is another text. -/
theorem qualified_ne (qualifier name : String) : qualifier ++ "." ++ name ≠ name := by
  intro heq
  have hlength : (qualifier ++ "." ++ name).toList.length = name.toList.length := by rw [heq]
  simp only [String.toList_append, List.length_append] at hlength
  have hdot : ".".toList.length = 1 := rfl
  omega

/-- The reference to a bean is its name alone where no qualifier is needed. -/
theorem reference_eq_name_iff (bean : Bean) :
    writer.reference package inside bean = bean.name ↔
      match writer.outerOf? bean with
      | none => bean.package = "" ∨ bean.package = package
      | some outer => inside = outer.name ∨ inside = bean.name := by
  unfold reference
  cases writer.outerOf? bean with
  | none => exact ite_eq_left_iff.trans (not_imp_comm.trans (imp_iff_right (qualified_ne _ _)))
  | some outer => exact ite_eq_left_iff.trans (not_imp_comm.trans (imp_iff_right (qualified_ne _ _)))

/-- The names that are written as they are. -/
theorem qualifyName_eq_self_iff (name : String) :
    writer.qualifyName package inside name = name ↔ writer.KeepsName package inside name := by
  unfold KeepsName
  by_cases hempty : name = ""
  · rw [hempty]
    exact iff_of_false (show "Object" ≠ "" by decide) fun h => h.1 rfl
  rw [and_iff_right hempty]
  by_cases hdot : '.' ∈ name.toList
  · exact iff_of_true (qualifyName_of_dot _ _ _ hdot) (.inl hdot)
  rw [or_iff_right hdot, qualifyName_eq _ _ _ hempty hdot, Java.libraryName?]
  by_cases hlanguage : name ∈ Java.languageTypes
  · rw [if_pos (List.contains_iff_mem.2 hlanguage)]
    exact iff_of_true rfl (.inl hlanguage)
  rw [or_iff_right hlanguage, if_neg (mt List.contains_iff_mem.1 hlanguage)]
  by_cases hcollection : name ∈ Java.collectionTypes
  · rw [if_pos (List.contains_iff_mem.2 hcollection)]
    exact iff_of_false (qualified_ne "java.util" name) fun h => h.1 hcollection
  rw [and_iff_right hcollection, if_neg (mt List.contains_iff_mem.1 hcollection), Option.getD_none]
  cases hbean : writer.registry.bean? name with
  | none => exact iff_of_true rfl fun _ h => absurd h.symm (Option.some_ne_none _)
  | some bean =>
    obtain ⟨-, rfl⟩ := Registry.bean?_eq_some_iff.1 hbean
    rw [Option.elim_some, reference_eq_name_iff]
    exact ⟨fun h _ hsome => Option.some.inj hsome ▸ h, fun h => h bean rfl⟩

/-- A name in an expression as it is written. -/
def writtenName (name : List Char) : List Char :=
  (writer.qualifyName package inside (String.ofList name)).toList

/-- A name is written as it is, or it gains characters that show. -/
theorem ink_writtenName (name : List Char) :
    writer.writtenName package inside name = name ∨
      ink name < ink (writer.writtenName package inside name) := by
  by_cases hempty : name = []
  · rw [hempty]
    exact .inr (show 0 < ink "Object".toList by decide)
  have hname : String.ofList name ≠ "" := fun heq => hempty (String.ofList_eq_empty_iff.1 heq)
  have hlist : (String.ofList name).toList = name := String.toList_ofList
  rw [writtenName]
  rcases writer.qualifyName_cases package inside hname with hkept | ⟨qualifier, hqualified⟩
  · rw [hkept]
    exact .inl hlist
  · have hdot : ink ".".toList = 1 := rfl
    rw [hqualified, String.toList_append, String.toList_append, TypeText.ink_append,
      TypeText.ink_append, hlist, hdot]
    exact .inr (by omega)

/-! ## Expressions -/

/-- What the names of type arguments gain by being written the arguments gain, if each argument does. -/
theorem ink_map_qualifyText {args : List (List Char)}
    (h : ∀ arg ∈ args, ink arg + ink ((names arg).flatMap (writer.writtenName package inside)) ≤
      ink (writer.qualifyText package inside arg) + ink (names arg).flatten) :
    ink args.flatten + ink ((args.flatMap names).flatMap (writer.writtenName package inside)) ≤
      ink ((args.filter (!·.isEmpty)).map (writer.qualifyText package inside)).flatten +
        ink (args.flatMap names).flatten := by
  induction args with
  | nil => exact Nat.le_refl _
  | cons arg rest ih =>
    rw [List.forall_mem_cons] at h
    have harg := h.1
    have hrest := ih h.2
    rw [List.flatten_cons, List.flatMap_cons, List.flatMap_append, List.flatten_append,
      TypeText.ink_append, TypeText.ink_append, TypeText.ink_append]
    cases arg with
    | nil =>
      -- an empty argument is left out, and it names nothing
      have hnone : names [] = [] := TypeText.names_of_allBlank rfl
      rw [hnone, List.filter_cons_of_neg (by decide)]
      simpa using hrest
    | cons c arg =>
      rw [List.filter_cons_of_pos rfl, List.map_cons, List.flatten_cons, TypeText.ink_append]
      omega

/-- What the names of an expression gain by being written the expression gains. -/
theorem ink_qualifyText (type : List Char) :
    ink type + ink ((names type).flatMap (writer.writtenName package inside)) ≤
      ink (writer.qualifyText package inside type) + ink (names type).flatten := by
  cases hblank : allBlank type with
  | true =>
    rw [TypeText.names_of_allBlank hblank, TypeText.ink_of_forall (List.all_eq_true.1 hblank)]
    exact Nat.zero_le _
  | false =>
    cases houtline : outline (trim type) with
    | applied name args =>
      have hargs := writer.ink_map_qualifyText package inside fun arg (harg : arg ∈ args) => by
        have hlength : arg.length < type.length :=
          TypeText.length_lt_of_mem_parts (by rw [houtline]; exact harg)
        exact ink_qualifyText arg
      have hopen : ∀ inner, ink ('<' :: inner) = 1 + ink inner := TypeText.ink_append ['<']
      have hclose : ink ['>'] = 1 := rfl
      have hdelimiter : ink ", ".toList = 0 := rfl
      rw [TypeText.names_of_applied hblank houtline, qualifyText_of_applied _ _ hblank houtline,
        ← TypeText.ink_trim type, TypeText.ink_of_applied houtline, List.flatMap_cons,
        List.flatten_cons, ← writtenName]
      simp only [TypeText.ink_append, hopen, hclose, TypeText.ink_intercalate hdelimiter]
      omega
    | array element =>
      have hlength : element.length < type.length :=
        TypeText.length_lt_of_mem_parts (by rw [houtline]; exact List.mem_singleton_self _)
      have helement := ink_qualifyText element
      have hbrackets : ink ['[', ']'] = 2 := rfl
      rw [TypeText.names_of_array hblank houtline, qualifyText_of_array _ _ hblank houtline,
        ← TypeText.ink_trim type, TypeText.ink_of_array houtline, TypeText.ink_append]
      omega
    | simple name =>
      rw [TypeText.names_of_simple hblank houtline, qualifyText_of_simple _ _ hblank houtline,
        ← TypeText.ink_trim type, TypeText.eq_of_outline_eq_simple houtline, List.flatMap_singleton,
        List.flatten_singleton]
      exact Nat.le_of_eq (Nat.add_comm _ _)
termination_by type.length

/-- Where all names are kept, an expression is written in its layout. -/
theorem qualifyText_eq_laidOut (type : List Char)
    (h : ∀ name ∈ names type,
      writer.qualifyName package inside (String.ofList name) = String.ofList name) :
    writer.qualifyText package inside type = laidOut type := by
  cases hblank : allBlank type with
  | true => rw [qualifyText_of_allBlank _ _ hblank, TypeText.laidOut_of_allBlank hblank]
  | false =>
    cases houtline : outline (trim type) with
    | applied name args =>
      rw [TypeText.names_of_applied hblank houtline] at h
      rw [qualifyText_of_applied _ _ hblank houtline, TypeText.laidOut_of_applied hblank houtline,
        h name List.mem_cons_self, String.toList_ofList]
      have hargs : (args.filter (!·.isEmpty)).map (writer.qualifyText package inside) =
          (args.filter (!·.isEmpty)).map laidOut := by
        refine List.map_congr_left fun arg harg => ?_
        have hmem : arg ∈ args := List.mem_of_mem_filter harg
        have hlength : arg.length < type.length :=
          TypeText.length_lt_of_mem_parts (by rw [houtline]; exact hmem)
        exact qualifyText_eq_laidOut arg fun name hname =>
          h name (List.mem_cons_of_mem _ (List.mem_flatMap.2 ⟨arg, hmem, hname⟩))
      rw [hargs]
    | array element =>
      have hlength : element.length < type.length :=
        TypeText.length_lt_of_mem_parts (by rw [houtline]; exact List.mem_singleton_self _)
      rw [TypeText.names_of_array hblank houtline] at h
      rw [qualifyText_of_array _ _ hblank houtline, TypeText.laidOut_of_array hblank houtline,
        qualifyText_eq_laidOut element h]
    | simple name =>
      rw [TypeText.names_of_simple hblank houtline] at h
      rw [qualifyText_of_simple _ _ hblank houtline, TypeText.laidOut_of_simple hblank houtline,
        h name (List.mem_singleton_self _), String.toList_ofList]
termination_by type.length

/-- An expression is written as it stands, but for white space around it, exactly when it is laid out
this way and each of its names is kept. -/
theorem qualifyText_eq_trim_iff (type : List Char) :
    writer.qualifyText package inside type = trim type ↔
      laidOut type = trim type ∧
        ∀ name ∈ names type, writer.KeepsName package inside (String.ofList name) := by
  have hkept : writer.qualifyText package inside type = trim type → ∀ name ∈ names type,
      writer.qualifyName package inside (String.ofList name) = String.ofList name := by
    intro heq
    have hink := writer.ink_qualifyText package inside type
    rw [heq, TypeText.ink_trim, Nat.add_le_add_iff_left] at hink
    intro name hname
    have hwritten := TypeText.eq_of_ink_flatMap_le (writer.ink_writtenName package inside) hink name
      hname
    rw [← String.toList_inj, String.toList_ofList]
    exact hwritten
  simp only [← qualifyName_eq_self_iff]
  constructor
  · intro heq
    refine ⟨?_, hkept heq⟩
    rw [← writer.qualifyText_eq_laidOut package inside type (hkept heq), heq]
  · rintro ⟨hlayout, hnames⟩
    rw [writer.qualifyText_eq_laidOut package inside type hnames, hlayout]

/-- A trimmed expression is written as it stands exactly when it is laid out this way and each of its names
is kept. -/
theorem qualify_trimmed_eq_iff (type : String) :
    writer.qualify package inside (trimmed type) = trimmed type ↔
      laidOut (trim type.toList) = trim type.toList ∧
        ∀ name ∈ names (trim type.toList), writer.KeepsName package inside (String.ofList name) := by
  have hlist := writer.qualifyText_eq_trim_iff package inside (trim type.toList)
  rw [trim_trim] at hlist
  rw [qualify, trimmed, String.toList_ofList, String.ofList_inj]
  exact hlist

end

end BeanGen.Writer
