import BeanGen.Proofs.TypeText.Balance

/-!
# Joining pieces and splitting them again

Splitting at the top level and joining undo each other. Joined with the delimiter between them, the pieces of a
text are the text, and pieces that hide the delimiter in brackets or quotations and leave none of these open
are the pieces of the joined text (`splitTop_intercalate`). No other pieces are, except that the last one
may leave something open (`of_splitTop_intercalate`). What a piece hides is told by where a reader stands in
front of each delimiter in it (`Hides`), and this is what the items of the text say (`hides_iff`).
-/

namespace BeanGen.TypeText

/-- The character stands in the text only where a bracket or a quotation is open. -/
def Hides (delimiter : Char) (cs : List Char) : Prop :=
  ∀ front back, cs = front ++ delimiter :: back → Nesting.top.after front ≠ .top

/-- The text leaves no quotation open and ends outside of all brackets. A closing bracket without an opening
one counts for nothing. -/
def Closes (cs : List Char) : Prop :=
  Nesting.top.after cs = .top

instance (cs : List Char) : Decidable (Closes cs) :=
  inferInstanceAs (Decidable (Nesting.top.after cs = .top))

section
variable {delimiter : Char} {cs front back : List Char} {pieces : List (List Char)}

/-! ## What a text hides -/

/-- A character that begins no arrow in a text begins none in the front part of it. -/
theorem head?_front_ne {c : Char} (h : ∀ rest, c = '=' → front ++ back = '>' :: rest → False) :
    c = '=' → front.head? ≠ some '>' := by
  intro heq hhead
  obtain ⟨rest, rfl⟩ := List.head?_eq_some_iff.1 hhead
  exact h (rest ++ back) heq rfl

/-- An item that is a delimiter at the top stands where a reader has left all brackets and quotations. -/
theorem exists_of_mem_items (hdelimiter : isStructural delimiter = false) (nesting : Nesting) {item : Item}
    (hmem : item ∈ items nesting cs) (htop : item.atTop = true) (htext : item.text = [delimiter]) :
    ∃ front back, cs = front ++ delimiter :: back ∧ nesting.after front = .top := by
  simp only [isStructural, Bool.or_eq_false_iff, beq_eq_false_iff_ne] at hdelimiter
  obtain ⟨⟨⟨hquotes, hopeners⟩, hclosers⟩, hequals⟩ := hdelimiter
  fun_induction items nesting cs with
  | case1 nesting => cases hmem
  | case2 depth q c cs ih =>
    rcases List.mem_cons.1 hmem with rfl | hmem
    · cases htop
    · obtain ⟨front, back, rfl, hfront⟩ := ih hmem
      exact ⟨'\\' :: c :: front, back, rfl, hfront⟩
  | case3 depth q c cs hpair ih =>
    rcases List.mem_cons.1 hmem with rfl | hmem
    · cases htop
    · obtain ⟨front, back, rfl, hfront⟩ := ih hmem
      refine ⟨c :: front, back, rfl, ?_⟩
      rw [Nesting.after]
      · exact hfront
      · -- an escape in the part in front would be one in the whole text
        rintro d rest rfl rfl
        exact hpair d (rest ++ delimiter :: back) rfl rfl
  | case4 depth cs ih =>
    rcases List.mem_cons.1 hmem with rfl | hmem
    · cases htext
    · obtain ⟨front, back, rfl, hfront⟩ := ih hmem
      exact ⟨'=' :: '>' :: front, back, rfl, hfront⟩
  | case5 depth c cs harrow hc ih | case6 depth c cs harrow _ hc ih | case7 depth c cs harrow _ _ hc ih =>
    rcases List.mem_cons.1 hmem with rfl | hmem
    · obtain rfl : c = delimiter := by simpa using htext
      simp_all
    · obtain ⟨front, back, rfl, hfront⟩ := ih hmem
      refine ⟨c :: front, back, rfl, ?_⟩
      rw [after_cons (head?_front_ne harrow)]
      simp_all
  | case8 depth c cs harrow hquote hopen hclose ih =>
    rcases List.mem_cons.1 hmem with rfl | hmem
    · obtain rfl : c = delimiter := by simpa using htext
      obtain rfl : depth = 0 := by simpa using htop
      exact ⟨[], cs, rfl, rfl⟩
    · obtain ⟨front, back, rfl, hfront⟩ := ih hmem
      refine ⟨c :: front, back, rfl, ?_⟩
      rw [after_cons (head?_front_ne harrow), if_neg hquote, if_neg hopen, if_neg hclose]
      exact hfront

/-- A text hides the delimiter when this is none of its items at the top. -/
theorem hides_iff (hdelimiter : isStructural delimiter = false) :
    Hides delimiter cs ↔ ∀ item ∈ items .top cs, item.atTop = true → item.text ≠ [delimiter] := by
  constructor
  · rintro h item hmem htop htext
    obtain ⟨front, back, rfl, hfront⟩ := exists_of_mem_items hdelimiter .top hmem htop htext
    exact h front back rfl hfront
  · rintro h front back rfl hfront
    have hmem : (⟨[delimiter], true⟩ : Item) ∈ items .top (front ++ delimiter :: back) := by
      rw [items_append_cons hdelimiter hfront]
      simp
    exact h _ hmem rfl rfl

theorem splitTop_of_hides (hdelimiter : isStructural delimiter = false) (h : Hides delimiter cs) :
    splitTop delimiter cs = [cs] :=
  splitTop_of_forall ((hides_iff hdelimiter).1 h)

/-- A text hides the delimiter, or there is a first one that it does not hide. -/
theorem hides_or_exists (delimiter : Char) (cs : List Char) :
    Hides delimiter cs ∨
      ∃ front back, cs = front ++ delimiter :: back ∧ Hides delimiter front ∧ Closes front := by
  induction hlength : cs.length using Nat.strongRecOn generalizing cs with
  | ind n ih =>
    by_cases hhides : Hides delimiter cs
    · exact .inl hhides
    · simp only [Hides, not_forall, not_not] at hhides
      obtain ⟨front, back, rfl, hfront⟩ := hhides
      have hshorter : front.length < n := by
        rw [← hlength]
        simp
      rcases ih front.length hshorter front rfl with hhides | ⟨first, rest, rfl, hfirst, hcloses⟩
      · exact .inr ⟨front, back, rfl, hhides, hfront⟩
      · exact .inr ⟨first, rest ++ delimiter :: back, by simp, hfirst, hcloses⟩

/-! ## Joined pieces -/

/-- Pieces that hide the delimiter and leave nothing open are found again. -/
theorem splitTop_intercalate (hdelimiter : isStructural delimiter = false) (hne : pieces ≠ [])
    (h : ∀ piece ∈ pieces, Hides delimiter piece ∧ Closes piece) :
    splitTop delimiter ([delimiter].intercalate pieces) = pieces := by
  induction pieces with
  | nil => exact absurd rfl hne
  | cons first rest ih =>
    obtain ⟨hhides, hcloses⟩ := h first List.mem_cons_self
    cases rest with
    | nil => rw [List.intercalate_singleton, splitTop_of_hides hdelimiter hhides]
    | cons next rest =>
      have hrest := ih (List.cons_ne_nil _ _) fun piece hpiece => h piece (List.mem_cons_of_mem first hpiece)
      rw [List.intercalate_cons_cons, List.append_assoc, List.singleton_append,
        splitTop_append_cons hdelimiter hcloses, splitTop_of_hides hdelimiter hhides, hrest]
      rfl

/-- Pieces that are found again hide the delimiter, and all but the last leave nothing open. -/
theorem of_splitTop_intercalate (hdelimiter : isStructural delimiter = false)
    (h : splitTop delimiter ([delimiter].intercalate pieces) = pieces) :
    (∀ piece ∈ pieces, Hides delimiter piece) ∧ ∀ piece ∈ pieces.dropLast, Closes piece := by
  induction pieces with
  | nil => exact absurd h (splitTop_ne_nil _ _)
  | cons first rest ih =>
    rcases hides_or_exists delimiter ([delimiter].intercalate (first :: rest)) with
      hhides | ⟨front, back, heq, hhides, hcloses⟩
    · rw [splitTop_of_hides hdelimiter hhides] at h
      obtain ⟨hfirst, rfl⟩ := List.cons.inj h
      rw [hfirst] at hhides
      simpa using hhides
    · -- the first delimiter that is not hidden is the one behind the first piece
      rw [heq, splitTop_append_cons hdelimiter hcloses, splitTop_of_hides hdelimiter hhides,
        List.singleton_append] at h
      obtain ⟨rfl, hrest⟩ := List.cons.inj h
      have hne : rest ≠ [] := hrest ▸ splitTop_ne_nil delimiter back
      obtain ⟨next, more, rfl⟩ := List.exists_cons_of_ne_nil hne
      rw [List.intercalate_cons_cons, List.append_assoc, List.singleton_append] at heq
      obtain rfl := (List.cons.inj (List.append_cancel_left heq)).2
      obtain ⟨hhidden, hclosed⟩ := ih hrest
      rw [List.dropLast_cons_cons]
      exact ⟨List.forall_mem_cons.2 ⟨hhides, hhidden⟩, List.forall_mem_cons.2 ⟨hcloses, hclosed⟩⟩

/-- Splitting at the top level and joining undo each other: what is split at any character and joined by it is
the same text again. And pieces joined by a character that is neither a bracket, a quotation mark nor an
equals sign come back when the text is split, if each hides the character and leaves nothing open; what comes
back are no other pieces, but for the end of the last one. -/
theorem splitTop_inverse :
    (∀ (delimiter : Char) (cs : List Char), [delimiter].intercalate (splitTop delimiter cs) = cs) ∧
      ∀ (delimiter : Char) (pieces : List (List Char)), delimiter ∉ quotes ++ openers ++ closers ++ ['='] →
        pieces ≠ [] →
        ((∀ piece ∈ pieces, Hides delimiter piece ∧ Closes piece) →
          splitTop delimiter ([delimiter].intercalate pieces) = pieces) ∧
        (splitTop delimiter ([delimiter].intercalate pieces) = pieces →
          (∀ piece ∈ pieces, Hides delimiter piece) ∧ ∀ piece ∈ pieces.dropLast, Closes piece) := by
  refine ⟨intercalate_splitTop, fun delimiter pieces hmarks hne => ?_⟩
  have hdelimiter : isStructural delimiter = false := by
    simpa [isStructural, and_assoc] using hmarks
  exact ⟨splitTop_intercalate hdelimiter hne, of_splitTop_intercalate hdelimiter⟩

theorem splitTop_inverse_arguments :
    ',' ∉ quotes ++ openers ++ closers ++ ['='] ∧
      (∀ piece ∈ ["Map<a, b>".toList, "'x,y'".toList, "> c".toList, []], Hides ',' piece ∧ Closes piece) ∧
      splitTop ',' "Map<a, b>,'x,y',> c,".toList = ["Map<a, b>".toList, "'x,y'".toList, "> c".toList, []] := by
  have hmarks : ',' ∉ quotes ++ openers ++ closers ++ ['='] := by decide
  have hpieces : ∀ piece ∈ ["Map<a, b>".toList, "'x,y'".toList, "> c".toList, []],
      Hides ',' piece ∧ Closes piece := by
    simp only [hides_iff (show isStructural ',' = false from rfl)]
    decide
  exact ⟨hmarks, hpieces, (splitTop_inverse.2 ',' _ hmarks (List.cons_ne_nil _ _)).1 hpieces⟩

end

end BeanGen.TypeText
