import BeanGen.Java.Unit
import BeanGen.Proofs.Text.Infix

/-!
# Where the header comment ends

A source file begins with a comment, and to the compiler this ends at the first `*/` of the text, wherever
that stands. The header is meant to be the whole comment (`SourceUnit.ClosesHeader`). It is, exactly when none
of the texts that are put into it has a `*/` (`SourceUnit.closesHeader_iff`); the header itself adds none, on
its lines or where two of them meet, but the one on its last line.
-/

namespace BeanGen.Java

open Text

/-- The marks that end a comment. -/
def commentEnd : List Char := ['*', '/']

/-- The text of the header comment. -/
def Header.text (header : Header) : String :=
  "\n".intercalate header.lines

/-- Up to the end of its header, `*/` occurs in the text of the file only at this end. -/
def SourceUnit.ClosesHeader (unit : SourceUnit) : Prop :=
  ∀ front back, unit.text.toList = front ++ commentEnd ++ back →
    unit.header.text.toList.length ≤ front.length + commentEnd.length

section
variable {header : Header}

/-- The lines of the header above the one that closes it. -/
def Header.openLines (header : Header) : List String :=
  header.lines.dropLast

/-- The last line of the header closes it. -/
theorem Header.lines_eq (header : Header) : header.lines = header.openLines ++ [" */"] := by
  unfold openLines lines
  dsimp only
  rw [List.dropLast_concat]

/-- The header is its open lines, a line break and what closes it. -/
theorem Header.toList_text (header : Header) :
    header.text.toList = ("\n".intercalate (header.openLines ++ [" *"])).toList ++ ['/'] := by
  have hopen : header.openLines ≠ [] := by
    unfold openLines lines
    dsimp only
    rw [List.dropLast_concat]
    simp
  rw [text, lines_eq, String.intercalate_append_of_ne_nil hopen (by simp),
    String.intercalate_append_of_ne_nil hopen (by simp)]
  simp

/-- A file begins with its header, and a line break is behind it. -/
theorem SourceUnit.exists_toList_text (unit : SourceUnit) :
    ∃ rest, unit.text.toList = unit.header.text.toList ++ '\n' :: rest := by
  have hheader : unit.header.lines ≠ [] := by simp [Header.lines_eq]
  obtain ⟨others, hlines⟩ : ∃ others, unit.lines = unit.header.lines ++ others :=
    ⟨_, List.append_assoc _ _ _⟩
  rw [text, hlines]
  by_cases hothers : others = []
  · exact ⟨[], by rw [hothers, List.append_nil, String.toList_append]; rfl⟩
  · refine ⟨("\n".intercalate others).toList ++ ['\n'], ?_⟩
    rw [String.intercalate_append_of_ne_nil hheader hothers]
    simp [Header.text]

/-- The header is closed where it ends exactly when `*/` occurs on none of its open lines. -/
theorem SourceUnit.closesHeader_iff_lines (unit : SourceUnit) :
    unit.ClosesHeader ↔ ∀ line ∈ unit.header.openLines, ¬ commentEnd <:+: line.toList := by
  obtain ⟨rest, htext⟩ := unit.exists_toList_text
  have hheader := unit.header.toList_text
  generalize hbody : ("\n".intercalate (unit.header.openLines ++ [" *"])).toList = body at hheader
  have hlines : commentEnd <:+: body ↔ ∃ line ∈ unit.header.openLines, commentEnd <:+: line.toList := by
    rw [← hbody, String.toList_intercalate, commentEnd,
      pair_infix_intercalate_iff (by decide) (by decide) (by decide)]
    have hlast : ¬ ['*', '/'] <:+: " *".toList := by decide
    simp only [List.map_append, List.mem_append, List.mem_map, or_and_right, exists_or,
      exists_exists_and_eq_and, List.map_cons, List.map_nil, List.mem_singleton, exists_eq_left, hlast,
      or_false]
  have hends : unit.ClosesHeader ↔ ¬ commentEnd <:+: body := by
    unfold ClosesHeader
    rw [htext, hheader, List.length_append]
    constructor
    · rintro h ⟨front, back, heq⟩
      have hlength := congrArg List.length heq
      have hearly := h front (back ++ '/' :: '\n' :: rest) (by rw [← heq]; simp)
      simp only [List.length_append, List.length_singleton] at hlength hearly
      omega
    · intro h front back heq
      by_contra hearly
      -- an end of a comment in front of the last character lies in the body of the header
      have hfront : front ++ commentEnd <+: body := by
        have hwhole : front ++ commentEnd <+: body ++ '/' :: '\n' :: rest := ⟨back, by rw [← heq]; simp⟩
        refine List.prefix_of_prefix_length_le hwhole (List.prefix_append _ _) ?_
        simp only [List.length_append, List.length_singleton] at hearly ⊢
        omega
      exact h ((List.suffix_append front commentEnd).isInfix.trans hfront.isInfix)
  rw [hends, hlines]
  simp only [not_exists, not_and]

end

/-- **Where the header comment ends.** It ends with the header exactly when there is no `*/` in the name of the
source file, in what is declared and in the bases that were dropped. -/
theorem SourceUnit.closesHeader_iff (unit : SourceUnit) :
    unit.ClosesHeader ↔
      (∀ file ∈ unit.header.sourceFile, ¬ commentEnd <:+: file.toList) ∧
        ¬ commentEnd <:+: unit.header.declared.toList ∧
        ∀ base ∈ unit.header.droppedBases, ¬ commentEnd <:+: base.toList := by
  have hopening : ¬ commentEnd <:+: "/*".toList := by decide
  have hadvice : ¬ commentEnd <:+:
      " *       Consider mapping them via configuration 'interfaceExtendsMappings'.".toList :=
    not_pair_infix_of_notMem (by decide)
  have hsource : ∀ file : String,
      commentEnd <:+: (" * Source TS: " ++ file).toList ↔ commentEnd <:+: file.toList := by
    intro file
    rw [String.toList_append, commentEnd, pair_infix_append_iff_right (by decide) (by decide)]
  have hdeclared : commentEnd <:+: (" * Original TS: '" ++ unit.header.declared ++ "'").toList ↔
      commentEnd <:+: unit.header.declared.toList := by
    rw [String.toList_append, String.toList_append, commentEnd, pair_infix_append_iff_left (by decide),
      pair_infix_append_iff_right (by decide) (by decide)]
  have hnoted : commentEnd <:+:
        (" * NOTE: Unresolved TS extends: " ++ ", ".intercalate unit.header.droppedBases).toList ↔
      ∃ base ∈ unit.header.droppedBases, commentEnd <:+: base.toList := by
    rw [String.toList_append, commentEnd, pair_infix_append_iff_right (by decide) (by decide),
      String.toList_intercalate, pair_infix_intercalate_iff (by decide) (by decide) (by decide)]
    simp only [List.mem_map, exists_exists_and_eq_and]
  rw [closesHeader_iff_lines, Header.openLines, Header.lines, List.dropLast_concat]
  simp only [List.forall_mem_append, List.forall_mem_map, List.forall_mem_cons, List.not_mem_nil,
    IsEmpty.forall_iff, implies_true, Option.mem_toList, hopening, hsource, hdeclared, not_false_eq_true,
    true_and, and_true, and_assoc]
  refine and_congr Iff.rfl (and_congr Iff.rfl ?_)
  by_cases hnone : unit.header.droppedBases = []
  · simp [hnone]
  · rw [if_neg (by rwa [List.isEmpty_iff])]
    simp only [List.forall_mem_cons, List.not_mem_nil, IsEmpty.forall_iff, implies_true, hnoted, hadvice,
      not_false_eq_true, and_true, not_exists, not_and]

end BeanGen.Java
