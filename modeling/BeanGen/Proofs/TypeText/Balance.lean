import BeanGen.Proofs.TypeText.Nesting

/-!
# Balanced type text

Type text can be read piece by piece: where a piece ends outside of quotations, the next one is read from
where the reader stands behind it (`Nesting.after`, `items_append`). A piece whose brackets pair up and
whose quotations are closed leaves the reader where it was (`IsBalanced`). Inside a bracket nothing of such a
piece stands at the top level (`IsBalanced.atTop_eq_false`), so the bracket around it is closed by the
character behind it (`closesAtEnd_bracket`), and text made of such pieces and a delimiter between them is
split at the delimiters (`splitTop_append_cons`). Whether a text is such a piece can be computed
(`isBalanced_iff`).
-/

namespace BeanGen.TypeText

/-- Where a reader of type text stands behind it. -/
def Nesting.after : Nesting → List Char → Nesting
  | nesting, [] => nesting
  | ⟨depth, some q⟩, '\\' :: _ :: cs => after ⟨depth, some q⟩ cs
  | ⟨depth, some q⟩, c :: cs => after ⟨depth, if c = q then none else some q⟩ cs
  | ⟨depth, none⟩, '=' :: '>' :: cs => after ⟨depth, none⟩ cs
  | ⟨depth, none⟩, c :: cs =>
    if quotes.contains c then after ⟨depth, some c⟩ cs
    else if openers.contains c then after ⟨depth + 1, none⟩ cs
    else if closers.contains c then after ⟨depth - 1, none⟩ cs
    else after ⟨depth, none⟩ cs

/-- Text whose brackets pair up and whose quotations are closed: however many brackets are open, it leaves a
reader where it was. A closing bracket without a partner would close one of those. -/
def IsBalanced (cs : List Char) : Prop :=
  ∀ depth, Nesting.after ⟨depth, none⟩ cs = ⟨depth, none⟩

/-- The text has an arrow neither in it nor at the seam with what follows. -/
def JoinsNoArrow (front back : List Char) : Prop :=
  front.getLast? = some '=' → back.head? ≠ some '>'

/-! ## Reading piece by piece -/

section
variable {c : Char} {cs xs ys : List Char} {nesting : Nesting} {depth : Nat}

theorem JoinsNoArrow.of_cons (h : JoinsNoArrow (c :: xs) ys) : JoinsNoArrow xs ys := by
  intro hlast
  refine h ?_
  rw [List.getLast?_cons, hlast]
  rfl

theorem joinsNoArrow_of_notMem (h : '=' ∉ xs) : JoinsNoArrow xs ys :=
  fun hlast => absurd (List.mem_of_getLast? hlast) h

/-- A character begins no arrow if it does not begin the text of one. -/
theorem head?_ne_of_forall (h : ∀ rest, c = '=' → cs = '>' :: rest → False) :
    c = '=' → cs.head? ≠ some '>' := by
  intro heq hhead
  obtain ⟨rest, rfl⟩ := List.head?_eq_some_iff.1 hhead
  exact h rest heq rfl

/-- Outside of quotations a character that begins no arrow is an item of its own. -/
theorem items_cons (h : c = '=' → cs.head? ≠ some '>') :
    items ⟨depth, none⟩ (c :: cs) =
      if quotes.contains c then ⟨[c], depth == 0⟩ :: items ⟨depth, some c⟩ cs
      else if openers.contains c then ⟨[c], depth == 0⟩ :: items ⟨depth + 1, none⟩ cs
      else if closers.contains c then ⟨[c], depth - 1 == 0⟩ :: items ⟨depth - 1, none⟩ cs
      else ⟨[c], depth == 0⟩ :: items ⟨depth, none⟩ cs := by
  rw [items]
  rintro rest rfl rfl
  exact h rfl rfl

/-- Outside of quotations a character that begins no arrow is read on its own. -/
theorem after_cons (h : c = '=' → cs.head? ≠ some '>') :
    Nesting.after ⟨depth, none⟩ (c :: cs) =
      if quotes.contains c then Nesting.after ⟨depth, some c⟩ cs
      else if openers.contains c then Nesting.after ⟨depth + 1, none⟩ cs
      else if closers.contains c then Nesting.after ⟨depth - 1, none⟩ cs
      else Nesting.after ⟨depth, none⟩ cs := by
  rw [Nesting.after]
  rintro rest rfl rfl
  exact h rfl rfl

/-- A piece that ends outside of quotations is read as if nothing followed, and what follows is read from
where the reader stands behind it. -/
theorem items_append_and_after (nesting : Nesting) (hquote : nesting.quote ≠ some '\\')
    (hend : (nesting.after xs).quote = none) (hseam : JoinsNoArrow xs ys) :
    items nesting (xs ++ ys) = items nesting xs ++ items (nesting.after xs) ys ∧
      nesting.after (xs ++ ys) = (nesting.after xs).after ys := by
  fun_induction Nesting.after nesting xs with
  | case1 nesting => simp [items]
  | case2 depth q c cs ih =>
    have ih := ih hquote hend hseam.of_cons.of_cons
    simp [items, Nesting.after, ih]
  | case3 depth q c cs hpair ih =>
    have hc : c ≠ '\\' := by
      rintro rfl
      cases cs with
      | nil =>
        have hne : '\\' ≠ q := fun h => hquote (h ▸ rfl)
        simp [Nesting.after, hne] at hend
      | cons d cs => exact hpair d cs rfl rfl
    have ih := ih (by split <;> simp_all) hend hseam.of_cons
    simp [items, Nesting.after, ih, hc]
  | case4 depth cs ih =>
    have ih := ih hquote hend hseam.of_cons.of_cons
    simp [items, Nesting.after, ih]
  | case5 depth c cs harrow hc ih | case6 depth c cs harrow _ hc ih
  | case7 depth c cs harrow _ _ hc ih | case8 depth c cs harrow _ _ hc ih =>
    have hsingle := head?_ne_of_forall harrow
    have hwhole : c = '=' → (cs ++ ys).head? ≠ some '>' := by
      intro heq
      cases cs with
      | nil => exact hseam (by rw [heq]; rfl)
      | cons d cs => exact hsingle heq
    have hnoEscape : c ∈ quotes → c ≠ '\\' := by
      rintro hmem rfl
      exact absurd hmem (by decide)
    have ih := ih (by simp_all) hend hseam.of_cons
    simp_all [items_cons hsingle, items_cons hwhole, after_cons hwhole]

/-! ## One bracket deeper -/

/-- A nesting inside one more bracket. -/
def Nesting.deeper (nesting : Nesting) : Nesting :=
  ⟨nesting.depth + 1, nesting.quote⟩

/-- A reader inside one more bracket either stays one deeper, and then nothing of the text is at the top for
it, or meets a closing bracket that has no partner for the other, and then both go on alike. -/
theorem after_deeper (nesting : Nesting) (cs : List Char) :
    nesting.deeper.after cs = (nesting.after cs).deeper ∧
        (∀ item ∈ items nesting.deeper cs, item.atTop = false) ∨
      nesting.deeper.after cs = nesting.after cs := by
  fun_induction Nesting.after nesting cs with
  | case1 nesting => exact .inl ⟨rfl, by simp [items]⟩
  | case2 depth q c cs ih =>
    simpa [Nesting.deeper, Nesting.after, items] using ih
  | case3 depth q c cs hpair ih =>
    rw [Nesting.deeper, Nesting.after, items] at *
    · simpa [Nesting.deeper] using ih
    all_goals exact hpair
  | case4 depth cs ih =>
    simpa [Nesting.deeper, Nesting.after, items] using ih
  | case5 depth c cs harrow hc ih =>
    rw [Nesting.deeper, after_cons (head?_ne_of_forall harrow), items_cons (head?_ne_of_forall harrow)]
    simp only [hc, if_true]
    simpa [Nesting.deeper] using ih
  | case6 depth c cs harrow hquote hc ih =>
    rw [Nesting.deeper, after_cons (head?_ne_of_forall harrow), items_cons (head?_ne_of_forall harrow)]
    simp only [hquote, hc, if_true]
    simpa [Nesting.deeper] using ih
  | case7 depth c cs harrow hquote hopen hc ih =>
    rw [Nesting.deeper, after_cons (head?_ne_of_forall harrow), items_cons (head?_ne_of_forall harrow)]
    simp only [hquote, hopen, hc, if_true]
    cases depth with
    | zero => exact .inr rfl
    | succ depth => simpa [Nesting.deeper] using ih
  | case8 depth c cs harrow hquote hopen hc ih =>
    rw [Nesting.deeper, after_cons (head?_ne_of_forall harrow), items_cons (head?_ne_of_forall harrow)]
    simp only [hquote, hopen, hc]
    simpa [Nesting.deeper] using ih

/-! ## Balanced text -/

/-- Characters that open or close something, and the one that arrows begin with. -/
def isStructural (c : Char) : Bool :=
  quotes.contains c || openers.contains c || closers.contains c || c == '='

/-- A kind of characters that has no such mark in it has no structural character. -/
theorem isStructural_eq_false {p : Char → Bool} (h : p c = true)
    (hmarks : (quotes ++ openers ++ closers ++ ['=']).any p = false) : isStructural c = false := by
  rw [← Bool.not_eq_true]
  intro hstructural
  simp only [isStructural, Bool.or_eq_true, List.contains_iff_mem, beq_iff_eq] at hstructural
  refine List.any_eq_false.1 hmarks c ?_ h
  simp only [List.mem_append, List.mem_singleton]
  tauto

/-- Any other character is an item of its own and leaves the reader where it was. -/
theorem items_of_not_structural (h : isStructural c = false) (depth : Nat) (cs : List Char) :
    items ⟨depth, none⟩ (c :: cs) = ⟨[c], depth == 0⟩ :: items ⟨depth, none⟩ cs ∧
      Nesting.after ⟨depth, none⟩ (c :: cs) = Nesting.after ⟨depth, none⟩ cs := by
  simp only [isStructural, Bool.or_eq_false_iff, beq_eq_false_iff_ne] at h
  obtain ⟨⟨⟨hquote, hopen⟩, hclose⟩, hne⟩ := h
  have hsingle : c = '=' → cs.head? ≠ some '>' := fun heq => absurd heq hne
  rw [items_cons hsingle, after_cons hsingle]
  simp only [hquote, hopen, hclose, Bool.false_eq_true, if_false, and_self]

/-- A character that opens a bracket is an item of its own, and the reader stands inside. -/
theorem items_of_opener (h : c ∈ openers) (depth : Nat) (cs : List Char) :
    items ⟨depth, none⟩ (c :: cs) = ⟨[c], depth == 0⟩ :: items ⟨depth + 1, none⟩ cs ∧
      Nesting.after ⟨depth, none⟩ (c :: cs) = Nesting.after ⟨depth + 1, none⟩ cs := by
  simp only [openers, List.mem_cons, List.not_mem_nil, or_false] at h
  rcases h with rfl | rfl | rfl | rfl <;> exact ⟨rfl, rfl⟩

/-- A character that closes a bracket is an item of its own, and the reader stands outside. -/
theorem items_of_closer (h : c ∈ closers) (depth : Nat) (cs : List Char) :
    items ⟨depth, none⟩ (c :: cs) = ⟨[c], depth - 1 == 0⟩ :: items ⟨depth - 1, none⟩ cs ∧
      Nesting.after ⟨depth, none⟩ (c :: cs) = Nesting.after ⟨depth - 1, none⟩ cs := by
  simp only [closers, List.mem_cons, List.not_mem_nil, or_false] at h
  rcases h with rfl | rfl | rfl | rfl <;> exact ⟨rfl, rfl⟩

/-- A balanced text is read as if nothing followed, and what follows as if nothing stood in front. -/
theorem IsBalanced.items_append (h : IsBalanced xs) (hseam : JoinsNoArrow xs ys) (depth : Nat) :
    items ⟨depth, none⟩ (xs ++ ys) = items ⟨depth, none⟩ xs ++ items ⟨depth, none⟩ ys ∧
      Nesting.after ⟨depth, none⟩ (xs ++ ys) = Nesting.after ⟨depth, none⟩ ys := by
  have hcut := items_append_and_after ⟨depth, none⟩ (by simp) (by rw [h depth]) hseam
  rwa [h depth] at hcut

/-- Text that neither opens nor closes anything is balanced. -/
theorem isBalanced_of_forall (h : ∀ c ∈ cs, isStructural c = false) : IsBalanced cs := by
  intro depth
  induction cs with
  | nil => rfl
  | cons c cs ih =>
    rw [(items_of_not_structural (h c List.mem_cons_self) depth cs).2]
    exact ih fun d hd => h d (List.mem_cons_of_mem c hd)

/-- One balanced text after the other is balanced. -/
theorem IsBalanced.append (hxs : IsBalanced xs) (hys : IsBalanced ys) (hseam : JoinsNoArrow xs ys) :
    IsBalanced (xs ++ ys) := by
  intro depth
  rw [(hxs.items_append hseam depth).2, hys depth]

/-- A balanced text in brackets is balanced. -/
theorem IsBalanced.bracket {o : Char} (h : IsBalanced cs) (ho : o ∈ openers) (hc : c ∈ closers)
    (hseam : JoinsNoArrow cs [c]) : IsBalanced (o :: cs ++ [c]) := by
  intro depth
  rw [List.cons_append, (items_of_opener ho depth _).2, (h.items_append hseam (depth + 1)).2,
    (items_of_closer hc (depth + 1) []).2]
  rfl

/-- Inside a bracket nothing of a balanced text is at the top. -/
theorem IsBalanced.atTop_eq_false (h : IsBalanced cs) (depth : Nat) :
    ∀ item ∈ items ⟨depth + 1, none⟩ cs, item.atTop = false := by
  rcases after_deeper ⟨depth, none⟩ cs with ⟨-, hinside⟩ | hmeet
  · exact hinside
  · rw [Nesting.deeper, h depth, h (depth + 1)] at hmeet
    cases hmeet

/-! ## Checking that a text is balanced -/

/-- A reader in `nesting` stands at the top behind the text, and on the way it meets no closing bracket
without a partner. -/
def pairsUp : Nesting → List Char → Bool
  | nesting, [] => nesting == .top
  | ⟨depth, some q⟩, '\\' :: _ :: cs => pairsUp ⟨depth, some q⟩ cs
  | ⟨depth, some q⟩, c :: cs => pairsUp ⟨depth, if c = q then none else some q⟩ cs
  | ⟨depth, none⟩, '=' :: '>' :: cs => pairsUp ⟨depth, none⟩ cs
  | ⟨depth, none⟩, c :: cs =>
    if quotes.contains c then pairsUp ⟨depth, some c⟩ cs
    else if openers.contains c then pairsUp ⟨depth + 1, none⟩ cs
    else if closers.contains c then depth != 0 && pairsUp ⟨depth - 1, none⟩ cs
    else pairsUp ⟨depth, none⟩ cs

/-- A nesting inside further brackets. -/
def Nesting.within (nesting : Nesting) (further : Nat) : Nesting :=
  ⟨nesting.depth + further, nesting.quote⟩

/-- Such a text brings a reader out of the brackets of `nesting` and of no others, however many more are
open. -/
theorem pairsUp_iff (nesting : Nesting) (cs : List Char) :
    pairsUp nesting cs = true ↔ ∀ further, (nesting.within further).after cs = ⟨further, none⟩ := by
  fun_induction pairsUp nesting cs with
  | case1 nesting =>
    obtain ⟨depth, quote⟩ := nesting
    simp [Nesting.within, Nesting.after, Nesting.top]
  | case2 depth q c cs ih => simpa [Nesting.within, Nesting.after] using ih
  | case3 depth q c cs hpair ih =>
    rw [ih]
    refine forall_congr' fun further => ?_
    rw [Nesting.within, Nesting.within, Nesting.after]
    exact hpair
  | case4 depth cs ih => simpa [Nesting.within, Nesting.after] using ih
  | case5 depth c cs harrow hc ih | case6 depth c cs harrow _ hc ih | case8 depth c cs harrow _ _ hc ih =>
    rw [ih]
    refine forall_congr' fun further => ?_
    simp_all [Nesting.within, after_cons (head?_ne_of_forall harrow), Nat.add_right_comm]
  | case7 depth c cs harrow hquote hopen hc ih =>
    have hread : ∀ further, (Nesting.within ⟨depth, none⟩ further).after (c :: cs) =
        Nesting.after ⟨depth + further - 1, none⟩ cs := by
      intro further
      rw [Nesting.within, after_cons (head?_ne_of_forall harrow), if_neg hquote, if_neg hopen, if_pos hc]
    simp only [hread]
    cases depth with
    | zero =>
      -- without a partner the bracket leaves a reader inside one more bracket where it leaves this one
      refine iff_of_false (by simp) fun h => ?_
      have hmeet := (h 0).symm.trans (h 1)
      cases hmeet
    | succ depth =>
      have hinside : ∀ further, depth + 1 + further - 1 = depth + further := by omega
      simp only [hinside]
      simpa [Nesting.within] using ih

/-- A text is balanced when no quotation stays open in it, the depth ends where it began, and on the way it
never falls below that. -/
theorem isBalanced_iff (cs : List Char) : IsBalanced cs ↔ pairsUp .top cs = true := by
  rw [pairsUp_iff]
  simp only [Nesting.within, Nesting.top, Nat.zero_add]
  rfl

instance (cs : List Char) : Decidable (IsBalanced cs) :=
  decidable_of_iff _ (isBalanced_iff cs).symm

/-! ## Brackets around a text -/

/-- A text has an item for its first character. -/
theorem items_ne_nil (nesting : Nesting) (c : Char) (cs : List Char) : items nesting (c :: cs) ≠ [] := by
  intro hnil
  have hspell := flatMap_items nesting (c :: cs)
  rw [hnil] at hspell
  cases hspell

/-- An opening bracket closes nothing. -/
theorem isTopCloser_of_opener (h : c ∈ openers) (atTop : Bool) : Item.isTopCloser ⟨[c], atTop⟩ = false := by
  simp only [openers, List.mem_cons, List.not_mem_nil, or_false] at h
  rcases h with rfl | rfl | rfl | rfl <;> exact Bool.and_false atTop

/-- A bracket around a balanced text is closed by the character behind the text, so by the last character
only if nothing follows. -/
theorem closesAtEnd_bracket_append {o : Char} {rest : List Char} (h : IsBalanced cs) (ho : o ∈ openers)
    (hc : c ∈ closers) (hseam : JoinsNoArrow cs (c :: rest)) :
    closesAtEnd (o :: (cs ++ c :: rest)) = rest.isEmpty := by
  have hitems : items .top (o :: (cs ++ c :: rest)) =
      ⟨[o], true⟩ :: (items ⟨1, none⟩ cs ++ ⟨[c], true⟩ :: items .top rest) := by
    rw [Nesting.top, (items_of_opener ho 0 _).1, (h.items_append hseam 1).1, (items_of_closer hc 1 _).1]
    rfl
  have hinside : ∀ item ∈ items ⟨1, none⟩ cs, (!item.isTopCloser) = true := by
    intro item hitem
    rw [Item.isTopCloser, h.atTop_eq_false 0 item hitem]
    rfl
  have hlast : Item.isTopCloser ⟨[c], true⟩ = true := by
    rw [Item.isTopCloser, Bool.true_and]
    exact List.contains_iff_mem.2 hc
  have hopen : openers.contains o = true := List.contains_iff_mem.2 ho
  rw [closesAtEnd.eq_def, hitems, List.dropWhile_cons_of_pos (by rw [isTopCloser_of_opener ho]; rfl),
    List.dropWhile_append_of_pos hinside, List.dropWhile_cons_of_neg (by rw [hlast]; decide)]
  cases rest with
  | nil => simp only [hopen, items]; rfl
  | cons d rest =>
    obtain ⟨item, is, hrest⟩ := List.exists_cons_of_ne_nil (items_ne_nil .top d rest)
    rw [hrest]
    simp

/-- A bracket around a balanced text is closed by the last character. -/
theorem closesAtEnd_bracket {o : Char} (h : IsBalanced cs) (ho : o ∈ openers) (hc : c ∈ closers)
    (hseam : JoinsNoArrow cs [c]) : closesAtEnd (o :: cs ++ [c]) = true :=
  closesAtEnd_bracket_append h ho hc hseam

/-- An item inside brackets may be put in front of items up to a closing bracket. -/
theorem forall_mem_takeWhile_cons {item : Item} {is : List Item} (hitem : item.atTop = false)
    (h : ∀ other ∈ is.takeWhile (!·.isTopCloser), other.atTop = false) :
    ∀ other ∈ (item :: is).takeWhile (!·.isTopCloser), other.atTop = false := by
  have hkept : (!item.isTopCloser) = true := by
    rw [Item.isTopCloser, hitem]
    rfl
  rw [List.takeWhile_cons, if_pos hkept]
  exact List.forall_mem_cons.2 ⟨hitem, h⟩

/-- Inside a bracket nothing is at the top up to the bracket that closes it. -/
theorem atTop_eq_false_of_mem_takeWhile (nesting : Nesting) (cs : List Char) :
    ∀ item ∈ (items nesting.deeper cs).takeWhile (!·.isTopCloser), item.atTop = false := by
  fun_induction Nesting.after nesting cs with
  | case1 nesting => simp [items]
  | case2 depth q c cs ih =>
    rw [Nesting.deeper, items]
    exact forall_mem_takeWhile_cons rfl ih
  | case3 depth q c cs hpair ih =>
    rw [Nesting.deeper, items]
    · exact forall_mem_takeWhile_cons rfl ih
    · exact hpair
  | case4 depth cs ih =>
    rw [Nesting.deeper, items]
    exact forall_mem_takeWhile_cons rfl ih
  | case5 depth c cs harrow hc ih =>
    rw [Nesting.deeper, items_cons (head?_ne_of_forall harrow), if_pos hc]
    exact forall_mem_takeWhile_cons rfl ih
  | case6 depth c cs harrow hquote hc ih =>
    rw [Nesting.deeper, items_cons (head?_ne_of_forall harrow), if_neg hquote, if_pos hc]
    exact forall_mem_takeWhile_cons rfl ih
  | case7 depth c cs harrow hquote hopen hc ih =>
    rw [Nesting.deeper, items_cons (head?_ne_of_forall harrow), if_neg hquote, if_neg hopen, if_pos hc]
    cases depth with
    | zero =>
      -- this is the bracket that closes the one around the text
      have hcloser : ¬ (!Item.isTopCloser ⟨[c], 0 + 1 - 1 == 0⟩) = true := by
        rw [Item.isTopCloser]
        simpa using hc
      rw [List.takeWhile_cons, if_neg hcloser]
      exact fun item hitem => absurd hitem List.not_mem_nil
    | succ depth => exact forall_mem_takeWhile_cons rfl ih
  | case8 depth c cs harrow hquote hopen hc ih =>
    rw [Nesting.deeper, items_cons (head?_ne_of_forall harrow), if_neg hquote, if_neg hopen, if_neg hc]
    exact forall_mem_takeWhile_cons rfl ih

/-- When the first bracket of a text is closed by its last character, nothing else is at the top. -/
theorem exists_of_atTop_of_closesAtEnd (h : closesAtEnd cs = true) {item : Item}
    (hitem : item ∈ items .top cs) (htop : item.atTop = true) :
    ∃ c, item.text = [c] ∧ (c ∈ openers ∨ c ∈ closers) := by
  rw [closesAtEnd.eq_def, Bool.and_eq_true] at h
  obtain ⟨hopen, h⟩ := h
  cases cs with
  | nil => cases hopen
  | cons o cs =>
    have ho : o ∈ openers := List.contains_iff_mem.1 hopen
    have hitems : items .top (o :: cs) = ⟨[o], true⟩ :: items ⟨1, none⟩ cs := (items_of_opener ho 0 cs).1
    rw [hitems, List.dropWhile_cons_of_pos (by rw [isTopCloser_of_opener ho]; rfl)] at h
    rw [hitems] at hitem
    rcases List.mem_cons.1 hitem with rfl | hmem
    · exact ⟨o, rfl, .inl ho⟩
    · split at h
      · next last hlast =>
        rw [← List.takeWhile_append_dropWhile (p := (!·.isTopCloser)) (l := items ⟨1, none⟩ cs), hlast,
          List.mem_append, List.mem_singleton] at hmem
        rcases hmem with hinside | rfl
        · rw [atTop_eq_false_of_mem_takeWhile .top cs item hinside] at htop
          cases htop
        · have hcloser : item.isTopCloser = true := by
            have hhead := List.head?_dropWhile_not (!·.isTopCloser) (items ⟨1, none⟩ cs)
            rw [hlast] at hhead
            simpa using hhead
          rw [Item.isTopCloser.eq_def, htop, Bool.true_and] at hcloser
          split at hcloser
          · next c htext => exact ⟨c, htext, .inr (List.contains_iff_mem.1 hcloser)⟩
          · cases hcloser
      · cases h

/-! ## Splitting -/

/-- Every text has a piece. -/
theorem splitTop_ne_nil (delimiter : Char) (cs : List Char) : splitTop delimiter cs ≠ [] :=
  splitItems_ne_nil _ _

/-- Characters in front of the first piece leave the pieces behind it alone. -/
theorem onFirst_append {front : List Char} {pieces rest : List (List Char)} (h : pieces ≠ []) :
    onFirst front (pieces ++ rest) = onFirst front pieces ++ rest := by
  cases pieces with
  | nil => exact absurd rfl h
  | cons first pieces => rfl

/-- A delimiter at the top splits items into those in front of it and those behind it. -/
theorem splitItems_append_cons (delimiter : Char) (is js : List Item) :
    splitItems [delimiter] (is ++ ⟨[delimiter], true⟩ :: js) =
      splitItems [delimiter] is ++ splitItems [delimiter] js := by
  have hnothing : ∀ is, onFirst [] (splitItems [delimiter] is) = splitItems [delimiter] is := by
    intro is
    cases hpieces : splitItems [delimiter] is with
    | nil => exact absurd hpieces (splitItems_ne_nil _ _)
    | cons first pieces => rfl
  induction is with
  | nil => simp [splitItems, hnothing]
  | cons item is ih =>
    rw [List.cons_append, splitItems, splitItems, ih, onFirst_append (splitItems_ne_nil _ _),
      onFirst_append (splitItems_ne_nil _ _)]
    split <;> rfl

/-- Items without the delimiter at the top are one piece. -/
theorem splitItems_of_forall {delimiter : List Char} {is : List Item}
    (h : ∀ item ∈ is, item.atTop = true → item.text ≠ delimiter) :
    splitItems delimiter is = [is.flatMap (·.text)] := by
  induction is with
  | nil => rfl
  | cons item is ih =>
    have hkept : ¬ (item.atTop && item.text == delimiter) = true := by
      rw [Bool.and_eq_true, beq_iff_eq]
      exact fun hcut => h item List.mem_cons_self hcut.1 hcut.2
    rw [splitItems, if_neg hkept, ih fun other hother => h other (List.mem_cons_of_mem item hother)]
    rfl

/-- A text without the delimiter at the top is one piece. -/
theorem splitTop_of_forall {delimiter : Char}
    (h : ∀ item ∈ items .top cs, item.atTop = true → item.text ≠ [delimiter]) :
    splitTop delimiter cs = [cs] := by
  rw [splitTop, splitTopAt, splitItems_of_forall h, flatMap_items]

/-- The characters of an item are those of the text. -/
theorem mem_of_mem_items {item : Item} (h : item ∈ items nesting cs) (hc : c ∈ item.text) : c ∈ cs := by
  rw [← flatMap_items nesting cs]
  exact List.mem_flatMap.2 ⟨item, h, hc⟩

/-- A text without the delimiter is one piece. -/
theorem splitTop_of_notMem {delimiter : Char} (h : delimiter ∉ cs) : splitTop delimiter cs = [cs] :=
  splitTop_of_forall fun item hitem _ htext =>
    h (mem_of_mem_items hitem (by rw [htext]; exact List.mem_singleton_self _))

/-- A delimiter behind a text that ends at the top is an item at the top. -/
theorem items_append_cons {delimiter : Char} (hdelimiter : isStructural delimiter = false)
    (hxs : Nesting.top.after xs = .top) (ys : List Char) :
    items .top (xs ++ delimiter :: ys) = items .top xs ++ ⟨[delimiter], true⟩ :: items .top ys := by
  have hseam : JoinsNoArrow xs (delimiter :: ys) := by
    rintro - hhead
    obtain rfl : delimiter = '>' := Option.some.inj hhead
    cases hdelimiter
  have hcut := (items_append_and_after .top (by simp [Nesting.top]) (by rw [hxs]; rfl) hseam).1
  rw [hcut, hxs, Nesting.top, (items_of_not_structural hdelimiter 0 ys).1]
  rfl

/-- A delimiter behind a text that ends at the top splits the text from what follows. -/
theorem splitTop_append_cons {delimiter : Char} (hdelimiter : isStructural delimiter = false)
    (hxs : Nesting.top.after xs = .top) (ys : List Char) :
    splitTop delimiter (xs ++ delimiter :: ys) = splitTop delimiter xs ++ splitTop delimiter ys := by
  rw [splitTop, splitTopAt, items_append_cons hdelimiter hxs, splitItems_append_cons]
  rfl

end

end BeanGen.TypeText
