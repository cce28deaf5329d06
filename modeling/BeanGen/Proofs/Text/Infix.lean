import BeanGen.Proofs.Text.Slice
import Mathlib.Data.List.Infix

/-!
# Texts inside texts

Where a text occurs in another one. Pieces stand in a row in a split text exactly when the joined pieces
occur there between separators or ends (`splitOn_infix_iff`). A pair of characters occurs in joined texts
within one of them or where two meet (`pair_infix_append_iff`), so a pair without the separator occurs in
one of the texts that the separator joins (`pair_infix_intercalate_iff`).
-/

namespace BeanGen.Text

section
variable {sep : Char} {text whole : List Char}

/-- The test for occurrences finds all of them and nothing else. -/
theorem hasInfix_iff (needle cs : List Char) : hasInfix needle cs = true ↔ needle <:+: cs := by
  induction cs with
  | nil => rw [hasInfix, List.isEmpty_iff, List.infix_nil]
  | cons c cs ih =>
    rw [hasInfix, Bool.or_eq_true, List.isPrefixOf_iff_prefix, ih, List.infix_cons_iff]

theorem getD_map_cons (c : Char) (cs : List Char) (found : Option (List Char)) :
    (found.map (c :: ·)).getD (c :: cs) = c :: found.getD cs := by
  cases found <;> rfl

/-- The text in front of the first occurrence begins the whole text. -/
theorem beforeInfix?_prefix (needle cs : List Char) : (beforeInfix? needle cs).getD cs <+: cs := by
  induction cs with
  | nil =>
    rw [beforeInfix?]
    split <;> exact List.prefix_rfl
  | cons c cs ih =>
    rw [beforeInfix?]
    split
    · exact List.nil_prefix
    · rw [getD_map_cons]
      exact (List.cons_prefix_cons).2 ⟨rfl, ih⟩

/-- In front of its first occurrence a text does not occur. -/
theorem not_infix_getD_beforeInfix? {needle : List Char} (hne : needle ≠ []) (cs : List Char) :
    ¬ needle <:+: (beforeInfix? needle cs).getD cs := by
  induction cs with
  | nil =>
    rw [beforeInfix?, if_neg (by simpa using hne), Option.getD_none, List.infix_nil]
    exact hne
  | cons c cs ih =>
    rw [beforeInfix?]
    split
    · rw [Option.getD_some, List.infix_nil]
      exact hne
    · next hstart =>
      rw [List.isPrefixOf_iff_prefix] at hstart
      rw [getD_map_cons, List.infix_cons_iff]
      rintro (hbegins | hinside)
      · exact hstart (hbegins.trans ((List.cons_prefix_cons).2 ⟨rfl, beforeInfix?_prefix needle cs⟩))
      · exact ih hinside

/-! ## Pieces in a row -/

/-- Joining the pieces gives the text back. -/
theorem intercalate_splitOn (sep : Char) (cs : List Char) :
    [sep].intercalate (splitOn sep cs) = cs := by
  rw [splitOn_eq, List.intercalate_splitOn]

/-- There is at least one piece. -/
theorem splitOn_ne_nil (sep : Char) (cs : List Char) : splitOn sep cs ≠ [] := by
  rw [splitOn_eq]
  exact List.splitOn_ne_nil sep cs

/-- Between the texts of two lists that are joined there is a separator. -/
theorem intercalate_append (sep : Char) {front back : List (List Char)} (hfront : front ≠ [])
    (hback : back ≠ []) :
    [sep].intercalate (front ++ back) =
      [sep].intercalate front ++ sep :: [sep].intercalate back := by
  induction front with
  | nil => exact absurd rfl hfront
  | cons piece rest ih =>
    cases rest with
    | nil =>
      rw [List.singleton_append, List.intercalate_cons_of_ne_nil hback, List.intercalate_singleton,
        List.append_assoc, List.singleton_append]
    | cons next rest =>
      rw [List.cons_append, List.intercalate_cons_of_ne_nil (List.append_ne_nil_of_left_ne_nil
        (List.cons_ne_nil next rest) back), ih (List.cons_ne_nil next rest), List.intercalate_cons_cons,
        List.append_assoc, List.append_assoc, List.append_assoc]

/-- The pieces of a text stand in a row among those of another one exactly when the text is all of this, or
its end, its beginning or a part of it, with separators in between. -/
theorem splitOn_infix_iff :
    splitOn sep text <:+: splitOn sep whole ↔
      whole = text ∨ sep :: text <:+ whole ∨ text ++ [sep] <+: whole ∨
        sep :: text ++ [sep] <:+: whole := by
  constructor
  · rintro ⟨front, back, h⟩
    have hwhole := intercalate_splitOn sep whole
    have hpieces := splitOn_ne_nil sep text
    rw [← h] at hwhole
    by_cases hfront : front = []
    · by_cases hback : back = []
      · rw [hfront, hback, List.nil_append, List.append_nil, intercalate_splitOn] at hwhole
        exact .inl hwhole.symm
      · rw [hfront, List.nil_append, intercalate_append sep hpieces hback, intercalate_splitOn] at hwhole
        refine .inr (.inr (.inl ⟨[sep].intercalate back, ?_⟩))
        rw [← hwhole, List.append_assoc, List.singleton_append]
    · by_cases hback : back = []
      · rw [hback, List.append_nil, intercalate_append sep hfront hpieces, intercalate_splitOn] at hwhole
        exact .inr (.inl ⟨[sep].intercalate front, hwhole⟩)
      · rw [List.append_assoc, intercalate_append sep hfront (List.append_ne_nil_of_right_ne_nil _ hback),
          intercalate_append sep hpieces hback, intercalate_splitOn] at hwhole
        refine .inr (.inr (.inr ⟨[sep].intercalate front, [sep].intercalate back, ?_⟩))
        rw [← hwhole]
        simp
  · rintro (rfl | ⟨front, rfl⟩ | ⟨back, rfl⟩ | ⟨front, back, rfl⟩)
    · exact List.infix_rfl
    · rw [splitOn_append_cons]
      exact (List.suffix_append _ _).isInfix
    · rw [List.append_assoc, List.singleton_append, splitOn_append_cons]
      exact (List.prefix_append _ _).isInfix
    · have hwhole : front ++ (sep :: text ++ [sep]) ++ back = front ++ sep :: (text ++ sep :: back) := by
        simp
      rw [hwhole, splitOn_append_cons, splitOn_append_cons, ← List.append_assoc]
      exact List.infix_append _ _ _

end

/-! ## A pair of characters -/

section
variable {a b : Char}

/-- A pair of characters occurs in a joined text within one of the two parts, or where they meet. -/
theorem pair_infix_append_iff {front back : List Char} :
    [a, b] <:+: front ++ back ↔
      [a, b] <:+: front ∨ [a, b] <:+: back ∨
        front.getLast? = some a ∧ back.head? = some b := by
  rw [List.infix_append_iff]
  constructor
  · rintro (h | h | ⟨left, right, hpair, hleft, hright⟩)
    · exact .inl h
    · exact .inr (.inl h)
    · match left, right, hpair with
      | [], _, rfl => exact .inr (.inl hright.isInfix)
      | [_], [_], rfl =>
        obtain ⟨before, rfl⟩ := hleft
        obtain ⟨rest, rfl⟩ := hright
        exact .inr (.inr ⟨List.getLast?_concat, rfl⟩)
      | [_, _], [], rfl => exact .inl hleft.isInfix
  · rintro (h | h | ⟨hlast, hhead⟩)
    · exact .inl h
    · exact .inr (.inl h)
    · obtain ⟨before, rfl⟩ := List.getLast?_eq_some_iff.1 hlast
      obtain ⟨rest, rfl⟩ := List.head?_eq_some_iff.1 hhead
      exact .inr (.inr ⟨[a], [b], rfl, List.suffix_append _ _, ⟨rest, rfl⟩⟩)

/-- A pair does not occur in a text without its second character. -/
theorem not_pair_infix_of_notMem {cs : List Char} (h : b ∉ cs) : ¬ [a, b] <:+: cs :=
  fun hpair => h (hpair.subset (by simp))

/-- A pair occurs in joined texts exactly when it occurs in one of them, if the separator has none of its
characters. -/
theorem pair_infix_intercalate_iff {sep : List Char} {lines : List (List Char)} (hsep : sep ≠ [])
    (ha : a ∉ sep) (hb : b ∉ sep) :
    [a, b] <:+: sep.intercalate lines ↔ ∃ line ∈ lines, [a, b] <:+: line := by
  induction lines with
  | nil => simp
  | cons line rest ih =>
    cases rest with
    | nil => simp
    | cons next rest =>
      have hfront : ¬(line.getLast? = some a ∧ sep.head? = some b) :=
        fun h => hb (List.mem_of_head? h.2)
      have hback : ∀ tail : List Char, ¬((line ++ sep).getLast? = some a ∧ tail.head? = some b) := by
        rintro tail ⟨h, -⟩
        rw [List.getLast?_append_of_ne_nil line hsep] at h
        exact ha (List.mem_of_getLast? h)
      rw [List.intercalate_cons_cons, pair_infix_append_iff, or_iff_left (hback _), pair_infix_append_iff,
        or_iff_left hfront, or_iff_left (not_pair_infix_of_notMem hb), ih]
      simp only [List.mem_cons, exists_eq_or_imp]

/-- A pair occurs behind a text exactly when it occurs in what is put there, if the text does not have its
second character and does not end with its first one. -/
theorem pair_infix_append_iff_right {front back : List Char} (hb : b ∉ front)
    (ha : front.getLast? ≠ some a) : [a, b] <:+: front ++ back ↔ [a, b] <:+: back := by
  rw [pair_infix_append_iff, or_iff_right (not_pair_infix_of_notMem hb), or_iff_left fun h => ha h.1]

/-- A pair occurs in front of a text exactly when it occurs in what is put there, if the text does not have
its second character. -/
theorem pair_infix_append_iff_left {front back : List Char} (hb : b ∉ back) :
    [a, b] <:+: front ++ back ↔ [a, b] <:+: front := by
  rw [pair_infix_append_iff, or_iff_right (not_pair_infix_of_notMem hb)]
  exact or_iff_left fun h => hb (List.mem_of_head? h.2)

end

end BeanGen.Text
