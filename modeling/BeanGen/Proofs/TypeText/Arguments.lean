import BeanGen.Proofs.Text.Slice
import BeanGen.Proofs.TypeText.Blanks
import BeanGen.TypeText.Mapping

/-!
# Arguments of generic types

An argument of a generic type is balanced text on its own between the commas (`IsArgument`). Arguments that
are written with a comma and a space between them are found again, one by one
(`map_trim_splitTop_intercalate`), and so are the name of a generic type and what stands between its angle
brackets (`generic?_angles`).
-/

namespace BeanGen.TypeText

open Text

section
variable {c delimiter : Char} {cs name inner : List Char} {pieces : List (List Char)}

/-! ## Lists of arguments -/

/-- Text that may stand between commas as one argument. -/
structure IsArgument (cs : List Char) : Prop where
  balanced : IsBalanced cs
  whole : splitTop ',' cs = [cs]
  trimmed : trim cs = cs

/-- Arguments with a comma and a space between them are found again. -/
theorem map_trim_splitTop_intercalate (hne : pieces ≠ []) (h : ∀ piece ∈ pieces, IsArgument piece) :
    (splitTop ',' (", ".toList.intercalate pieces)).map trim = pieces := by
  induction pieces with
  | nil => exact absurd rfl hne
  | cons first rest ih =>
    have hfirst := h first List.mem_cons_self
    cases rest with
    | nil =>
      rw [List.intercalate_singleton, hfirst.whole, List.map_singleton, hfirst.trimmed]
    | cons next rest =>
      have hrest := ih (List.cons_ne_nil _ _) fun piece hpiece => h piece (List.mem_cons_of_mem first hpiece)
      rw [intercalate_comma, splitTop_append_cons rfl (hfirst.balanced 0), splitTop_cons rfl (by decide),
        List.map_append, map_trim_onFirst (by decide) (splitTop_ne_nil _ _), hrest, hfirst.whole,
        List.map_singleton, hfirst.trimmed]
      rfl

/-- Balanced texts with a comma and a space between them are balanced. -/
theorem isBalanced_intercalate (h : ∀ piece ∈ pieces, IsBalanced piece)
    (hseam : ∀ piece ∈ pieces, '=' ∉ piece) : IsBalanced (", ".toList.intercalate pieces) := by
  induction pieces with
  | nil => exact fun depth => rfl
  | cons first rest ih =>
    cases rest with
    | nil =>
      rw [List.intercalate_singleton]
      exact h first List.mem_cons_self
    | cons next rest =>
      have hcomma : IsBalanced ", ".toList := isBalanced_of_forall (forall_eq_false_of_any rfl)
      have hrest := ih (fun piece hpiece => h piece (List.mem_cons_of_mem first hpiece))
        fun piece hpiece => hseam piece (List.mem_cons_of_mem first hpiece)
      rw [List.intercalate_cons_cons, List.append_assoc]
      exact (h first List.mem_cons_self).append (hcomma.append hrest (joinsNoArrow_of_notMem (by decide)))
        (joinsNoArrow_of_notMem (hseam first List.mem_cons_self))

/-- A character of arguments with a comma and a space between them is one of these or stands in an
argument. -/
theorem of_mem_intercalate (h : c ∈ ", ".toList.intercalate pieces) :
    c ∈ [',', ' '] ∨ ∃ piece ∈ pieces, c ∈ piece := by
  induction pieces with
  | nil => cases h
  | cons first rest ih =>
    cases rest with
    | nil =>
      rw [List.intercalate_singleton] at h
      exact .inr ⟨first, List.mem_cons_self, h⟩
    | cons next rest =>
      rw [List.intercalate_cons_cons, List.mem_append, List.mem_append] at h
      rcases h with (h | h) | h
      · exact .inr ⟨first, List.mem_cons_self, h⟩
      · exact .inl h
      · exact (ih h).imp_right fun ⟨piece, hpiece, hc⟩ => ⟨piece, List.mem_cons_of_mem first hpiece, hc⟩

/-- Joined texts begin as the first of them does. -/
theorem head?_intercalate (first : List Char) (pieces : List (List Char)) (h : first ≠ []) :
    (", ".toList.intercalate (first :: pieces)).head? = first.head? := by
  obtain ⟨c, cs, rfl⟩ := List.exists_cons_of_ne_nil h
  cases pieces with
  | nil => rw [List.intercalate_singleton]
  | cons next rest => rw [intercalate_comma, List.cons_append, List.head?_cons, List.head?_cons]

/-- Texts with a comma and a space between them hold no white space that squeezing takes away if the texts do
not and begin with something else. -/
theorem squeeze_intercalate (h : ∀ piece ∈ pieces, squeeze piece = piece)
    (hhead : ∀ piece ∈ pieces, piece ≠ [] ∧ ∀ c ∈ piece.head?, isBlank c = false) :
    squeeze (", ".toList.intercalate pieces) = ", ".toList.intercalate pieces := by
  induction pieces with
  | nil => rfl
  | cons first rest ih =>
    have hfirst := h first List.mem_cons_self
    cases rest with
    | nil => rw [List.intercalate_singleton, hfirst]
    | cons next rest =>
      have hrest := ih (fun piece hpiece => h piece (List.mem_cons_of_mem first hpiece))
        fun piece hpiece => hhead piece (List.mem_cons_of_mem first hpiece)
      have hnext := hhead next (List.mem_cons_of_mem first List.mem_cons_self)
      have hbegins : ∀ c ∈ (", ".toList.intercalate (next :: rest)).head?, isBlank c = false := by
        rw [head?_intercalate next rest hnext.1]
        exact hnext.2
      rw [intercalate_comma, squeeze_append_cons rfl, squeeze_space hbegins, hrest, hfirst]

/-! ## Generic types -/

/-- A qualified name begins with a character that may begin a name. -/
theorem exists_of_isQualifiedName (h : isQualifiedName name = true) :
    ∃ c rest, name = c :: rest ∧ Java.isNameStart c = true := by
  rw [isQualifiedName, List.all_eq_true] at h
  cases name with
  | nil => exact absurd (h [] List.mem_cons_self) (by decide)
  | cons c rest =>
    refine ⟨c, rest, rfl, ?_⟩
    rw [splitOn] at h
    split at h
    · exact absurd (h [] List.mem_cons_self) (by decide)
    · split at h
      · have hsegment := h [c] List.mem_cons_self
        rw [Bool.and_eq_true] at hsegment
        exact hsegment.1
      · next piece pieces hsplit =>
        have hsegment := h (c :: piece) List.mem_cons_self
        rw [Bool.and_eq_true] at hsegment
        exact hsegment.1

/-- The first angle bracket stands behind the name. -/
theorem before_and_dropWhile_angles (hangle : '<' ∉ name) (inner : List Char) :
    before '<' (name ++ '<' :: inner ++ ['>']) = name ∧
      (name ++ '<' :: inner ++ ['>']).dropWhile (· != '<') = '<' :: inner ++ ['>'] := by
  have hnone : ∀ c ∈ name, (c != '<') = true := by
    intro c hc
    rw [bne_iff_ne]
    rintro rfl
    exact hangle hc
  constructor
  · rw [before, List.append_assoc, List.takeWhile_append_of_pos hnone, List.cons_append,
      List.takeWhile_cons_of_neg (by simp), List.append_nil]
  · rw [List.append_assoc, List.dropWhile_append_of_pos hnone, List.cons_append,
      List.dropWhile_cons_of_neg (by simp)]

/-- A name with balanced text in angle brackets behind it is a generic type. -/
theorem generic?_angles (hname : isQualifiedName name = true) (hangle : '<' ∉ name) (htrim : trim name = name)
    (hinner : IsBalanced inner) (hseam : JoinsNoArrow inner ['>']) :
    generic? (name ++ '<' :: inner ++ ['>']) =
      some (name, ((splitTop ',' inner).map trim).filter (!·.isEmpty)) := by
  obtain ⟨hbefore, hargs⟩ := before_and_dropWhile_angles hangle inner
  have hhead : ((name ++ '<' :: inner ++ ['>']).head? != some '<') = true := by
    obtain ⟨c, rest, rfl, -⟩ := exists_of_isQualifiedName hname
    have hfirst : c ≠ '<' := fun heq => hangle (heq ▸ List.mem_cons_self)
    simpa using hfirst
  have hlast : ((name ++ '<' :: inner ++ ['>']).getLast? == some '>') = true := by
    rw [List.getLast?_concat]
    rfl
  have hcloses : closesAtEnd ('<' :: inner ++ ['>']) = true :=
    closesAtEnd_bracket hinner (by decide) (by decide) hseam
  have hbetween : (('<' :: inner ++ ['>']).drop 1).dropLast = inner := by simp
  rw [generic?, hbefore, hargs, hhead, hlast, htrim, hname, hcloses, hbetween]
  rfl

end

end BeanGen.TypeText
