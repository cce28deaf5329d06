import BeanGen.Text.Blank
import BeanGen.Text.Slice
import BeanGen.TypeText.Nesting

/-!
# The outline of a Java type expression

The types of fields and heritage clauses are kept as text, because hints and configuration may give
any text. `outline` finds the outermost structure of such a text: type arguments, an array, or a
name. What relabels names in a type works on the outline and goes on with the parts, all of which are
shorter than the whole.
-/

namespace BeanGen.TypeText

open Text

/-- The outermost structure of a type expression. -/
inductive Outline where
  /-- Type arguments behind a name. -/
  | applied (name : List Char) (args : List (List Char))
  /-- An array of an element type. -/
  | array (element : List Char)
  /-- Anything else. -/
  | simple (name : List Char)
  deriving Repr

/-- The types that the outline refers to. -/
def Outline.parts : Outline → List (List Char)
  | applied _ args => args
  | array element => [element]
  | simple _ => []

/-- The outline of a trimmed type expression. -/
def outline (cs : List Char) : Outline :=
  if cs.contains '<' && cs.getLast? == some '>' then
    .applied (trim (before '<' cs))
      ((splitTop ',' ((cs.dropWhile (· != '<')).drop 1).dropLast).map trim)
  else if "[]".toList.isSuffixOf cs then .array (trim cs.dropLast.dropLast)
  else .simple cs

/-- Every part of an outline is shorter than the expression. -/
theorem length_lt_of_mem_parts_outline {cs part : List Char} (h : part ∈ (outline cs).parts) :
    part.length < cs.length := by
  unfold outline at h
  split at h
  · rename_i hcond
    obtain ⟨piece, hpiece, rfl⟩ : ∃ piece ∈ splitTop ','
        ((cs.dropWhile (· != '<')).drop 1).dropLast, trim piece = part := by
      simpa [Outline.parts] using h
    have h₁ := length_trim_le piece
    have h₂ := length_le_of_mem_splitTop hpiece
    have h₃ := (List.dropWhile_suffix (l := cs) (· != '<')).length_le
    have h₄ : cs ≠ [] := by
      rintro rfl
      simp at hcond
    have h₅ := List.length_pos_iff.2 h₄
    simp at h₂
    omega
  split at h
  · rename_i hsuffix
    obtain rfl : part = trim cs.dropLast.dropLast := by simpa [Outline.parts] using h
    have h₁ := length_trim_le cs.dropLast.dropLast
    have h₂ : 2 ≤ cs.length := (List.isSuffixOf_iff_suffix.1 hsuffix).length_le
    simp at h₁
    omega
  · simp [Outline.parts] at h

end BeanGen.TypeText
