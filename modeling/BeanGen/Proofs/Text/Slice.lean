import BeanGen.Text.Slice
import Mathlib.Data.List.TakeWhile

/-!
# Cutting text at a separator

`Text.splitOn` is the library's `List.splitOn` on characters (`splitOn_eq`), so its laws are the
library's. What `afterLast` finds is the last of the pieces (`getLast?_splitOn`). Lists are written with a
comma and a space between the texts (`intercalate_comma`).
-/

namespace BeanGen.Text

section
variable {sep : Char} {cs front back : List Char}

/-- Splitting is the library's. -/
theorem splitOn_eq (sep : Char) (cs : List Char) : splitOn sep cs = cs.splitOn sep := by
  induction cs with
  | nil => rfl
  | cons c cs ih =>
    rw [List.splitOn_cons_eq_if_modifyHead, splitOn, ih]
    simp only [beq_iff_eq]
    split
    · rfl
    · cases hsplit : cs.splitOn sep with
      | nil => exact absurd hsplit (List.splitOn_ne_nil sep cs)
      | cons piece rest => rfl

/-- A text without the separator is the only piece. -/
theorem splitOn_of_notMem (h : sep ∉ cs) : splitOn sep cs = [cs] := by
  rw [splitOn_eq, List.splitOn_eq_singleton h]

/-- Splitting at one separator splits the two sides. -/
theorem splitOn_append_cons (sep : Char) (front back : List Char) :
    splitOn sep (front ++ sep :: back) = splitOn sep front ++ splitOn sep back := by
  simp only [splitOn_eq, List.splitOn_append_cons_self]

/-- No piece contains the separator. -/
theorem notMem_of_mem_splitOn {sep : Char} {cs piece : List Char} (h : piece ∈ splitOn sep cs) :
    sep ∉ piece := by
  by_cases hsep : sep ∈ cs
  · obtain ⟨front, back, rfl, hfront⟩ := List.eq_append_cons_of_mem hsep
    rw [splitOn_append_cons, splitOn_of_notMem hfront] at h
    rcases List.mem_cons.1 h with rfl | hmem
    · exact hfront
    · exact notMem_of_mem_splitOn hmem
  · rw [splitOn_of_notMem hsep] at h
    exact List.mem_singleton.1 h ▸ hsep
termination_by cs.length
decreasing_by
  subst_vars
  simp only [List.length_append, List.length_cons]
  omega

/-- Each character that does not separate is in a piece. -/
theorem exists_mem_splitOn {sep c : Char} {cs : List Char} (h : c ∈ cs) (hc : c ≠ sep) :
    ∃ piece ∈ splitOn sep cs, c ∈ piece := by
  by_cases hsep : sep ∈ cs
  · obtain ⟨front, back, rfl, hfront⟩ := List.eq_append_cons_of_mem hsep
    rw [splitOn_append_cons, splitOn_of_notMem hfront]
    rcases List.mem_append.1 h with hmem | hmem
    · exact ⟨front, List.mem_cons_self, hmem⟩
    · obtain ⟨piece, hpiece, hmem⟩ :=
        exists_mem_splitOn ((List.mem_cons.1 hmem).resolve_left hc) hc
      exact ⟨piece, List.mem_cons_of_mem _ hpiece, hmem⟩
  · rw [splitOn_of_notMem hsep]
    exact ⟨cs, List.mem_singleton_self cs, h⟩
termination_by cs.length
decreasing_by
  subst_vars
  simp only [List.length_append, List.length_cons]
  omega

/-- A text without the separator stands in front of it. -/
theorem before_of_notMem (h : sep ∉ cs) : before sep cs = cs := by
  unfold before
  rw [List.takeWhile_eq_self_iff]
  intro c hc
  simp only [bne_iff_ne]
  rintro rfl
  exact h hc

/-- What stands before the last separator does not matter. -/
theorem afterLast_append_cons (sep : Char) (front back : List Char) :
    afterLast sep (front ++ sep :: back) = afterLast sep back := by
  unfold afterLast
  rw [List.reverse_append, List.reverse_cons, List.append_assoc, List.takeWhile_append]
  split
  · next hall =>
    rw [(List.takeWhile_prefix _).eq_of_length hall]
    simp
  · rfl

/-- A text without the separator stands behind it. -/
theorem afterLast_of_notMem (h : sep ∉ cs) : afterLast sep cs = cs := by
  have hreverse : before sep cs.reverse = cs.reverse :=
    before_of_notMem fun hmem => h (List.mem_reverse.1 hmem)
  rw [afterLast, ← before, hreverse, List.reverse_reverse]

/-- The text after the last separator is the last piece. -/
theorem getLast?_splitOn (sep : Char) (cs : List Char) :
    (splitOn sep cs).getLast? = some (afterLast sep cs) := by
  by_cases h : sep ∈ cs
  · obtain ⟨front, back, rfl, hfront⟩ := List.eq_append_cons_of_mem h
    rw [splitOn_append_cons, List.getLast?_append, getLast?_splitOn sep back,
      afterLast_append_cons]
    rfl
  · rw [splitOn_of_notMem h, afterLast_of_notMem h]
    rfl
termination_by cs.length
decreasing_by
  subst_vars
  simp only [List.length_append, List.length_cons]
  omega

/-- The text after the last separator is one of the pieces. -/
theorem afterLast_mem_splitOn (sep : Char) (cs : List Char) : afterLast sep cs ∈ splitOn sep cs :=
  List.mem_of_getLast? (getLast?_splitOn sep cs)

/-- A comma and a space stand between the first of several joined texts and the others. -/
theorem intercalate_comma (first next : List Char) (rest : List (List Char)) :
    ", ".toList.intercalate (first :: next :: rest) =
      first ++ ',' :: ' ' :: ", ".toList.intercalate (next :: rest) := by
  simp

end

end BeanGen.Text
