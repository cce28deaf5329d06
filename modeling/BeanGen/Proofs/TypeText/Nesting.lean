import BeanGen.TypeText.Nesting
import Mathlib.Data.List.Basic

/-!
# Splitting type text and joining it again

Splitting text at the top-level occurrences of a character cuts the text at these and changes nothing
else: the pieces with the character between them are the text (`intercalate_splitTop`). So each piece
stands in the text between two such characters, or at an end (`exists_of_mem_splitTop`).
-/

namespace BeanGen.TypeText

section
variable {delimiter : Char} {front piece : List Char} {pieces : List (List Char)} {is : List Item}

/-- There is always a piece. -/
theorem splitItems_ne_nil (delimiter : List Char) (is : List Item) : splitItems delimiter is ≠ [] := by
  have honFirst : ∀ (front : List Char) (pieces : List (List Char)), onFirst front pieces ≠ [] := by
    intro front pieces
    cases pieces <;> exact List.cons_ne_nil _ _
  cases is with
  | nil => exact List.cons_ne_nil _ _
  | cons item rest =>
    rw [splitItems]
    split
    · exact List.cons_ne_nil _ _
    · exact honFirst _ _

/-- Characters in front of the first piece stand in front of the whole. -/
theorem intercalate_onFirst (delimiter front : List Char) (h : pieces ≠ []) :
    delimiter.intercalate (onFirst front pieces) = front ++ delimiter.intercalate pieces := by
  obtain ⟨first, rest, rfl⟩ := List.exists_cons_of_ne_nil h
  cases rest with
  | nil => simp [onFirst]
  | cons next rest => simp [onFirst]

/-- The pieces of items with the delimiter between them spell the items. -/
theorem intercalate_splitItems (delimiter : Char) (is : List Item) :
    [delimiter].intercalate (splitItems [delimiter] is) = is.flatMap (·.text) := by
  induction is with
  | nil => simp [splitItems]
  | cons item rest ih =>
    have hrest := splitItems_ne_nil [delimiter] rest
    rw [splitItems, List.flatMap_cons, ← ih]
    split
    · next hcut =>
      rw [Bool.and_eq_true, beq_iff_eq] at hcut
      obtain ⟨first, pieces, hpieces⟩ := List.exists_cons_of_ne_nil hrest
      rw [hcut.2, hpieces]
      simp [onFirst]
    · rw [intercalate_onFirst _ _ hrest]

/-- The pieces of a text with the delimiter between them are the text. -/
theorem intercalate_splitTop (delimiter : Char) (cs : List Char) :
    [delimiter].intercalate (splitTop delimiter cs) = cs := by
  rw [splitTop, splitTopAt, intercalate_splitItems, flatMap_items]

/-- In joined pieces each piece stands between two delimiters, or at an end. -/
theorem exists_of_mem_of_intercalate (delimiter : Char) (h : piece ∈ pieces) :
    ∃ front back, [delimiter].intercalate pieces = front ++ piece ++ back ∧
      (∀ c ∈ front.getLast?, c = delimiter) ∧ ∀ c ∈ back.head?, c = delimiter := by
  induction pieces with
  | nil => cases h
  | cons first rest ih =>
    cases rest with
    | nil =>
      obtain rfl := List.mem_singleton.1 h
      exact ⟨[], [], by simp, by simp, by simp⟩
    | cons next rest =>
      have hjoin : [delimiter].intercalate (first :: next :: rest) =
          first ++ delimiter :: [delimiter].intercalate (next :: rest) := by
        simp
      rw [hjoin]
      rcases List.mem_cons.1 h with rfl | hmem
      · exact ⟨[], delimiter :: [delimiter].intercalate (next :: rest), by simp, by simp, by simp⟩
      · obtain ⟨front, back, hrest, hfront, hback⟩ := ih hmem
        refine ⟨first ++ delimiter :: front, back, by simp [hrest], fun c hc => ?_, hback⟩
        cases front with
        | nil => simpa using hc.symm
        | cons d front =>
          refine hfront c ?_
          rwa [List.getLast?_append_cons, List.getLast?_cons_cons] at hc

/-- Each piece stands in the text between two delimiters, or at an end. -/
theorem exists_of_mem_splitTop {cs : List Char} (h : piece ∈ splitTop delimiter cs) :
    ∃ front back, cs = front ++ piece ++ back ∧
      (∀ c ∈ front.getLast?, c = delimiter) ∧ ∀ c ∈ back.head?, c = delimiter := by
  have hcut := exists_of_mem_of_intercalate delimiter h
  rwa [intercalate_splitTop] at hcut

/-- A text whose first bracket is closed at the end ends with a closing bracket. -/
theorem exists_of_closesAtEnd {cs : List Char} (h : closesAtEnd cs = true) :
    ∃ front c, cs = front ++ [c] ∧ c ∈ closers := by
  rw [closesAtEnd.eq_def, Bool.and_eq_true] at h
  obtain ⟨-, h⟩ := h
  split at h
  · next item hlast =>
    have hcut : (items .top cs).takeWhile (!·.isTopCloser) ++ [item] = items .top cs := by
      rw [← hlast, List.takeWhile_append_dropWhile]
    have hcloser : item.isTopCloser = true := by
      have hhead := List.head?_dropWhile_not (!·.isTopCloser) (items .top cs)
      rw [hlast] at hhead
      simpa using hhead
    have hspell := flatMap_items .top cs
    rw [← hcut, List.flatMap_append, List.flatMap_singleton] at hspell
    rw [Item.isTopCloser.eq_def, Bool.and_eq_true] at hcloser
    split at hcloser
    · next c htext =>
      rw [htext] at hspell
      exact ⟨_, c, hspell.symm, List.contains_iff_mem.1 hcloser.2⟩
    · cases hcloser.2
  · cases h

end

end BeanGen.TypeText
