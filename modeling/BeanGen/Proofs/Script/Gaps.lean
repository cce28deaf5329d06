import BeanGen.Proofs.Script.Spaced
import BeanGen.Proofs.Script.Tokens

/-!
# Reading over gaps

The spaces and block comments of a gap are passed over where a token is looked for (`skip_gap`, `ahead_gap`),
and no phrase ends within them. But the first comment of a gap is found where comments are looked for: in
front of a type (`firstComment?_gap`) and behind a member (`trailingComment?_gap`).
-/

namespace BeanGen.Script

open Spaced (Comment Piece Gap Parting)

/-! ## Comments -/

theorem closedBlockLength?_append {text : List Char} (h : ¬['*', '/'] <:+: text) (k : List Char) :
    closedBlockLength? (text ++ '*' :: '/' :: k) = some (text.length + 2) := by
  induction text with
  | nil => rfl
  | cons c text ih =>
    have hrest : ¬['*', '/'] <:+: text := fun hmem => h (hmem.trans (List.suffix_cons c text).isInfix)
    have hopen : ∀ rest, c :: (text ++ '*' :: '/' :: k) ≠ '*' :: '/' :: rest := by
      intro rest heq
      obtain ⟨rfl, hbehind⟩ := List.cons.inj heq
      cases text with
      | nil => cases hbehind
      | cons d text =>
        obtain rfl : d = '/' := (List.cons.inj hbehind).1
        exact h ⟨[], text, rfl⟩
    rw [List.cons_append, closedBlockLength?.eq_def]
    split
    · next heq => exact absurd heq (hopen _)
    · next heq =>
      obtain ⟨rfl, rfl⟩ := List.cons.inj heq
      rw [ih hrest]
      rfl
    · next heq => cases heq

section
variable {k : List Char} {follow : Follow}

theorem text_append (comment : Comment) (k : List Char) :
    comment.text ++ k = '/' :: '*' :: (comment.chars ++ '*' :: '/' :: k) := by
  simp [Comment.text]

/-- The comment behind its first character. -/
def tailText (comment : Comment) : List Char :=
  '*' :: (comment.chars ++ ['*', '/'])

theorem text_eq (comment : Comment) : comment.text = '/' :: tailText comment := rfl

theorem commentLength_text (comment : Comment) (k : List Char) :
    commentLength (comment.text ++ k) = (tailText comment).length + 1 := by
  rw [text_append, commentLength, closedBlockLength?_append comment.closed]
  simp [tailText]

theorem passedLength_text (comment : Comment) (k : List Char) :
    passedLength (comment.text ++ k) = (tailText comment).length + 1 := by
  rw [text_append, passedLength, closedBlockLength?_append comment.closed]
  simp [tailText]

/-- A comment is nothing else. -/
theorem otherLengths_text (follow : Follow) (comment : Comment) (k : List Char) :
    asideLength (comment.text ++ k) = 0 ∧ gapLength (comment.text ++ k) = 0 ∧
      endsAt follow (comment.text ++ k) = false :=
  ⟨rfl, rfl, rfl⟩

/-! ## Where tokens are looked for -/

theorem skip_comment (comment : Comment) (k : List Char) : skip (comment.text ++ k) = skip k := by
  have hlength := commentLength_text comment k
  obtain ⟨haside, hgap, -⟩ := otherLengths_text .line comment k
  rw [text_eq, List.cons_append] at hlength haside hgap ⊢
  rw [skip, skipFrom, if_neg (by decide), hlength, haside, hgap, Nat.max_zero, Nat.max_zero]
  exact skipFrom_append (tailText comment) k

/-- Behind a comment, too, the phrase in front of it may end. -/
theorem aheadFrom_append {text : List Char} (h : text ≠ []) :
    aheadFrom follow text.length (text ++ k) = ahead follow k := by
  induction text with
  | nil => exact absurd rfl h
  | cons c text ih =>
    rw [List.length_cons, List.cons_append, aheadFrom]
    cases text with
    | nil =>
      refine if_congr ?_ rfl rfl
      rw [Bool.and_eq_true]
      exact and_iff_right rfl
    | cons d text =>
      rw [if_neg (by simp)]
      exact ih (List.cons_ne_nil d text)

theorem ahead_comment (comment : Comment) (k : List Char) :
    ahead follow (comment.text ++ k) = ahead follow k := by
  have hlength := commentLength_text comment k
  obtain ⟨haside, -, hends⟩ := otherLengths_text follow comment k
  rw [ahead, hends, Bool.and_false, if_neg (by simp)]
  rw [text_eq, List.cons_append] at hlength haside ⊢
  rw [aheadFrom, if_neg (by decide), if_neg (by decide), hlength, haside, ite_self]
  dsimp only
  rw [Nat.max_zero]
  exact aheadFrom_append (List.cons_ne_nil _ _)

theorem endsBehindBreak_append (text k : List Char) :
    endsBehindBreak follow text.length (text ++ k) = endsBehindBreak follow 0 k := by
  induction text with
  | nil => rfl
  | cons c text ih => rw [List.length_cons, List.cons_append, endsBehindBreak, ih]

theorem endsBehindBreak_comment (comment : Comment) (k : List Char) :
    endsBehindBreak follow 0 (comment.text ++ k) = endsBehindBreak follow 0 k := by
  have hlength := passedLength_text comment k
  rw [text_eq, List.cons_append] at hlength ⊢
  rw [endsBehindBreak, if_neg (by decide), hlength]
  exact endsBehindBreak_append (tailText comment) k

theorem asidesFrom_append (text k : List Char) : asidesFrom text.length (text ++ k) = asidesFrom 0 k := by
  induction text with
  | nil => rfl
  | cons c text ih => rw [List.length_cons, List.cons_append, asidesFrom, ih]

theorem asidesFrom_comment (comment : Comment) (k : List Char) :
    asidesFrom 0 (comment.text ++ k) = asidesFrom 0 k := by
  have hlength := commentLength_text comment k
  obtain ⟨-, hgap, -⟩ := otherLengths_text .line comment k
  rw [text_eq, List.cons_append] at hlength hgap ⊢
  rw [asidesFrom, if_neg (by decide), hlength, hgap, Nat.max_zero]
  exact asidesFrom_append (tailText comment) k

/-! ## Where comments are looked for -/

theorem firstComment?_comment (comment : Comment) (k : List Char) :
    firstComment? (comment.text ++ k) = some comment.text := by
  have hlength := commentLength_text comment k
  obtain ⟨haside, -, -⟩ := otherLengths_text .line comment k
  have hstart : (comment.text ++ k).dropWhile isSpace = comment.text ++ k := by
    rw [text_eq, List.cons_append, List.dropWhile_cons_of_neg (by decide)]
  rw [firstComment?, hstart, hlength, haside, Nat.max_zero, text_eq]
  simp

theorem trailingComment?_comment (comment : Comment) (k : List Char) :
    trailingComment? (comment.text ++ k) = some comment.text := by
  have hlength := commentLength_text comment k
  rw [text_eq, List.cons_append] at hlength ⊢
  rw [trailingComment?, if_neg (by decide), if_neg (by decide), hlength]
  simp

end

/-! ## Gaps -/

section
variable {k : List Char} {follow : Follow}

theorem gap_cons (piece : Piece) (gap : Gap) (k : List Char) :
    Gap.text (piece :: gap) ++ k = piece.text ++ (Gap.text gap ++ k) := by
  simp [Gap.text]

/-- What spaces and comments do not change, gaps do not change. -/
theorem gap_append {α : Type} {f : List Char → α} (gap : Gap) (hspace : ∀ k, f (' ' :: k) = f k)
    (hcomment : ∀ comment k, f (Comment.text comment ++ k) = f k) (k : List Char) : f (gap.text ++ k) = f k := by
  induction gap with
  | nil => rfl
  | cons piece gap ih =>
    rw [gap_cons]
    cases piece with
    | space => exact (hspace _).trans ih
    | comment comment => exact (hcomment comment _).trans ih

@[simp]
theorem skip_gap (gap : Gap) (k : List Char) : skip (gap.text ++ k) = skip k :=
  gap_append gap (fun _ => rfl) skip_comment k

@[simp]
theorem ahead_gap (gap : Gap) (k : List Char) : ahead follow (gap.text ++ k) = ahead follow k :=
  gap_append gap (fun _ => rfl) ahead_comment k

theorem endsBehindBreak_gap (gap : Gap) (k : List Char) :
    endsBehindBreak follow 0 (gap.text ++ k) = endsBehindBreak follow 0 k :=
  gap_append gap (fun _ => rfl) endsBehindBreak_comment k

theorem asidesFrom_gap (gap : Gap) (k : List Char) : asidesFrom 0 (gap.text ++ k) = asidesFrom 0 k :=
  gap_append gap (fun _ => rfl) asidesFrom_comment k

/-- A gap in front of a word ends the word in front of the gap. -/
theorem endsWord_gap (gap : Gap) (hk : endsWord k = true) : endsWord (gap.text ++ k) = true := by
  cases gap with
  | nil => exact hk
  | cons piece gap =>
    rw [gap_cons]
    cases piece <;> rfl

theorem endsWord_parting (parting : Parting) (k : List Char) : endsWord (parting.text ++ k) = true := by
  obtain ⟨gap, hparts⟩ := parting
  cases gap with
  | nil => cases hparts
  | cons piece gap =>
    rw [Parting.text, gap_cons]
    cases piece <;> rfl

/-- The first comment of a gap stands in place of what is behind it. -/
theorem firstComment?_gap (gap : Gap) (k : List Char) :
    firstComment? (gap.text ++ k) = gap.comment?.or (firstComment? k) := by
  induction gap with
  | nil => rfl
  | cons piece gap ih =>
    rw [gap_cons]
    cases piece with
    | space =>
      have hspace (cs : List Char) : firstComment? (' ' :: cs) = firstComment? cs := rfl
      exact (hspace _).trans ih
    | comment comment => exact firstComment?_comment comment _

theorem trailingComment?_gap (gap : Gap) (k : List Char) :
    trailingComment? (gap.text ++ k) = gap.comment?.or (trailingComment? k) := by
  induction gap with
  | nil => rfl
  | cons piece gap ih =>
    rw [gap_cons]
    cases piece with
    | space =>
      have hspace (cs : List Char) : trailingComment? (' ' :: cs) = trailingComment? cs := rfl
      exact (hspace _).trans ih
    | comment comment => exact trailingComment?_comment comment _

theorem comment?_append (gap more : Gap) :
    Gap.comment? (gap ++ more) = gap.comment?.or more.comment? := by
  induction gap with
  | nil => rfl
  | cons piece gap ih =>
    cases piece with
    | space => exact ih
    | comment _ => rfl

theorem exists_comment_of_comment? {gap : Gap} {text : List Char} (h : gap.comment? = some text) :
    ∃ comment : Comment, comment.text = text := by
  induction gap with
  | nil => cases h
  | cons piece gap ih =>
    cases piece with
    | space => exact ih h
    | comment comment => exact ⟨comment, Option.some.inj h⟩

/-- A gap in a text is no missing part of it. -/
theorem hasGap_gap (gap : Gap) : hasGap gap.text = false := by
  rw [hasGap, List.any_eq_false]
  intro c hc
  obtain ⟨piece, -, hc⟩ := List.mem_flatMap.1 hc
  cases piece with
  | space =>
    obtain rfl := List.mem_singleton.1 hc
    decide
  | comment comment =>
    have hvalid := comment.valid
    rw [hasGap, List.any_eq_false] at hvalid
    simp only [Piece.text, Comment.text, List.mem_cons, List.mem_append, List.not_mem_nil, or_false] at hc
    rcases hc with rfl | rfl | hc | rfl | rfl
    · decide
    · decide
    · exact hvalid c hc
    · decide
    · decide

/-- A gap is passed over. -/
def gapTrivia (gap : Gap) : Trivia where
  text := gap.text
  skip_append := skip_gap gap

end

end BeanGen.Script
