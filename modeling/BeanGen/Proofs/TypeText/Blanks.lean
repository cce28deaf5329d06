import BeanGen.Proofs.Text.Blank
import BeanGen.Proofs.Text.Squeeze
import BeanGen.Proofs.TypeText.Balance
import Mathlib.Data.List.Induction

/-!
# White space in type text

White space opens and closes nothing, so a reader of type text stands behind it where it stood in front
(`items_cons_of_isBlank`). Squeezing it and trimming it leave text balanced and add nothing but spaces at the
top level (`readsSqueezed`, `IsBalanced.trimStart`, `IsBalanced.trimEnd`). Trimming a text changes none of its
trimmed pieces (`map_trim_splitTop_trimStart`, `map_trim_splitTop_trimEnd`).
-/

namespace BeanGen.TypeText

open Text

section
variable {b c delimiter : Char} {cs blanks : List Char} {nesting : Nesting}

/-- White space opens and closes nothing. -/
theorem isStructural_of_isBlank (h : isBlank c = true) : isStructural c = false :=
  isStructural_eq_false h (by decide)

/-- What opens or closes something is no white space. -/
theorem isBlank_of_isStructural (h : isStructural c = true) : isBlank c = false := by
  rw [← Bool.not_eq_true]
  intro hc
  rw [isStructural_of_isBlank hc] at h
  cases h

/-- White space is balanced. -/
theorem isBalanced_of_blank (h : allBlank cs = true) : IsBalanced cs :=
  isBalanced_of_forall fun c hc => isStructural_of_isBlank (List.all_eq_true.1 h c hc)

/-! ## Squeezing -/

/-- White space is no quotation mark. -/
theorem ne_quote_of_isBlank {q : Char} (h : isBlank b = true) (hq : q ∈ quotes) : b ≠ q := by
  have hmarks : ∀ d ∈ quotes, isBlank d = false := forall_eq_false_of_any rfl
  exact ne_of_isBlank h (hmarks q hq)

/-- A character inside a quotation leaves the reader in it, or outside of all. -/
theorem mem_quotes_of_mem_ite {q r : Char} (hq : q ∈ quotes) (h : r ∈ if c = q then none else some q) :
    r ∈ quotes := by
  split at h
  · cases h
  · obtain rfl := Option.some.inj h
    exact hq

/-- White space is an item of its own and leaves a reader where it was. -/
theorem items_cons_of_isBlank (nesting : Nesting) (h : isBlank b = true)
    (hquote : ∀ q ∈ nesting.quote, q ∈ quotes) (cs : List Char) :
    nesting.after (b :: cs) = nesting.after cs ∧
      ∃ atTop, items nesting (b :: cs) = ⟨[b], atTop⟩ :: items nesting cs := by
  obtain ⟨depth, quote⟩ := nesting
  cases quote with
  | none =>
    have hcut := items_of_not_structural (isStructural_of_isBlank h) depth cs
    exact ⟨hcut.2, _, hcut.1⟩
  | some q =>
    have hescape : ∀ d rest, b = '\\' → cs = d :: rest → False :=
      fun _ _ heq _ => ne_of_isBlank h rfl heq
    rw [Nesting.after, items, if_neg (ne_quote_of_isBlank h (hquote q rfl))]
    · exact ⟨rfl, false, rfl⟩
    all_goals exact hescape

/-- A reader of the squeezed text ends up where a reader of the text does, and meets nothing else at the top
but spaces. -/
structure ReadsSqueezed (nesting : Nesting) (cs : List Char) : Prop where
  after_eq : nesting.after (squeeze cs) = nesting.after cs
  of_mem_items : ∀ item ∈ items nesting (squeeze cs), item.atTop = true →
    item.text = [' '] ∨ item ∈ items nesting cs

/-- White space in front of a text is read as a space, or not at all. -/
theorem ReadsSqueezed.cons_of_isBlank (hcs : ReadsSqueezed nesting cs) (h : isBlank b = true)
    (hquote : ∀ q ∈ nesting.quote, q ∈ quotes) : ReadsSqueezed nesting (b :: cs) := by
  obtain ⟨hafter, atTop, hitems⟩ := items_cons_of_isBlank nesting h hquote cs
  have hmem : ∀ item ∈ items nesting (squeeze cs), item.atTop = true →
      item.text = [' '] ∨ item ∈ items nesting (b :: cs) := by
    intro item hitem htop
    rw [hitems]
    exact (hcs.of_mem_items item hitem htop).imp_right (List.mem_cons_of_mem _)
  rcases squeeze_cons_of_isBlank h cs with hspace | ⟨hgone, -⟩
  · obtain ⟨hafterSpace, atTop, hitemsSpace⟩ :=
      items_cons_of_isBlank nesting (b := ' ') rfl hquote (squeeze cs)
    refine ⟨by rw [hspace, hafterSpace, hcs.after_eq, hafter], fun item hitem htop => ?_⟩
    rw [hspace, hitemsSpace] at hitem
    rcases List.mem_cons.1 hitem with rfl | hitem
    · exact .inl rfl
    · exact hmem item hitem htop
  · exact ⟨by rw [hgone, hcs.after_eq, hafter], by rwa [hgone]⟩

/-- An item of the text that squeezing leaves alone may be put in front. -/
theorem ReadsSqueezed.append {inside : Nesting} (h : ReadsSqueezed inside cs) (front : List Char)
    (atTop : Bool) (hsqueeze : squeeze (front ++ cs) = front ++ squeeze cs)
    (hread : ∀ ds ∈ [cs, squeeze cs], nesting.after (front ++ ds) = inside.after ds ∧
      items nesting (front ++ ds) = ⟨front, atTop⟩ :: items inside ds) :
    ReadsSqueezed nesting (front ++ cs) := by
  obtain ⟨hafter, hitems⟩ := hread cs (by simp)
  obtain ⟨hafterSqueezed, hitemsSqueezed⟩ := hread (squeeze cs) (by simp)
  refine ⟨by rw [hsqueeze, hafterSqueezed, h.after_eq, hafter], fun item hitem htop => ?_⟩
  rw [hsqueeze, hitemsSqueezed] at hitem
  rw [hitems]
  rcases List.mem_cons.1 hitem with rfl | hitem
  · exact .inr List.mem_cons_self
  · exact (h.of_mem_items item hitem htop).imp_right (List.mem_cons_of_mem _)

/-- Outside of quotations a character that is no white space is an item of the squeezed text, too. -/
theorem ReadsSqueezed.cons {inside : Nesting} {depth : Nat} (h : ReadsSqueezed inside cs) (atTop : Bool)
    (hc : isBlank c = false) (harrow : c = '=' → cs.head? ≠ some '>')
    (hread : ∀ ds, (c = '=' → ds.head? ≠ some '>') →
      Nesting.after ⟨depth, none⟩ (c :: ds) = inside.after ds ∧
        items ⟨depth, none⟩ (c :: ds) = ⟨[c], atTop⟩ :: items inside ds) :
    ReadsSqueezed ⟨depth, none⟩ (c :: cs) := by
  have hsqueezed : c = '=' → (squeeze cs).head? ≠ some '>' :=
    fun heq hhead => harrow heq ((head?_squeeze_eq_some_iff rfl).1 hhead)
  refine h.append [c] atTop (squeeze_cons_of_not hc) fun ds hds => hread ds ?_
  simp only [List.mem_cons, List.not_mem_nil, or_false] at hds
  rcases hds with rfl | rfl
  · exact harrow
  · exact hsqueezed

/-- White space behind a backslash in a quotation may be squeezed into one character with what follows. -/
theorem ReadsSqueezed.escaped {depth : Nat} {q : Char} (h : ReadsSqueezed ⟨depth, some q⟩ cs) (c : Char)
    (hquote : ∀ r ∈ some q, r ∈ quotes) : ReadsSqueezed ⟨depth, some q⟩ ('\\' :: c :: cs) := by
  obtain ⟨d, rest, hsqueeze, hrest⟩ := exists_squeeze_eq_cons c cs
  have hskip : Nesting.after ⟨depth, some q⟩ rest = Nesting.after ⟨depth, some q⟩ (squeeze cs) ∧
      ∀ item ∈ items ⟨depth, some q⟩ rest, item ∈ items ⟨depth, some q⟩ (squeeze cs) := by
    rcases hrest with hrest | hrest
    · rw [hrest]
      exact ⟨rfl, fun item hitem => hitem⟩
    · obtain ⟨hafter, atTop, hitems⟩ := items_cons_of_isBlank ⟨depth, some q⟩ (b := ' ') rfl hquote rest
      rw [hrest, hafter, hitems]
      exact ⟨rfl, fun item hitem => List.mem_cons_of_mem _ hitem⟩
  refine ⟨?_, fun item hitem htop => ?_⟩
  · rw [squeeze_cons_of_not rfl, hsqueeze, Nesting.after, Nesting.after, hskip.1, h.after_eq]
  · rw [squeeze_cons_of_not rfl, hsqueeze, items] at hitem
    rcases List.mem_cons.1 hitem with rfl | hitem
    · cases htop
    · exact (h.of_mem_items item (hskip.2 item hitem) htop).imp_right (List.mem_cons_of_mem _)

/-- In a quotation a character that is no white space and escapes nothing is an item of the squeezed text, too. -/
theorem ReadsSqueezed.quoted {depth : Nat} {q : Char}
    (h : ReadsSqueezed ⟨depth, if c = q then none else some q⟩ cs) (hc : isBlank c = false)
    (hpair : ∀ d rest, c = '\\' → cs = d :: rest → False) : ReadsSqueezed ⟨depth, some q⟩ (c :: cs) := by
  refine h.append [c] false (squeeze_cons_of_not hc) fun ds hds => ?_
  have hsingle : ∀ d rest, c = '\\' → ds = d :: rest → False := by
    rintro d rest rfl rfl
    obtain rfl : cs = [] := by
      cases cs with
      | nil => rfl
      | cons e cs => exact absurd rfl (hpair e cs rfl)
    simp [squeeze] at hds
  rw [List.singleton_append, Nesting.after, items]
  · exact ⟨rfl, rfl⟩
  all_goals exact hsingle

/-- Squeezing changes nothing for a reader but white space. -/
theorem readsSqueezed (nesting : Nesting) (cs : List Char) (hquote : ∀ q ∈ nesting.quote, q ∈ quotes) :
    ReadsSqueezed nesting cs := by
  fun_induction Nesting.after nesting cs with
  | case1 nesting => exact ⟨rfl, fun item hitem _ => .inr hitem⟩
  | case2 depth q c cs ih =>
    exact (ih hquote).escaped c hquote
  | case3 depth q c cs hpair ih =>
    have hq : q ∈ quotes := hquote q rfl
    cases hc : isBlank c with
    | true =>
      rw [if_neg (ne_quote_of_isBlank hc hq)] at ih
      exact (ih hquote).cons_of_isBlank hc hquote
    | false =>
      exact (ih fun r hr => mem_quotes_of_mem_ite hq hr).quoted hc hpair
  | case4 depth cs ih =>
    have hsqueeze : squeeze ('=' :: '>' :: cs) = '=' :: '>' :: squeeze cs := by
      rw [squeeze_cons_of_not rfl, squeeze_cons_of_not rfl]
    exact (ih hquote).append ['=', '>'] (depth == 0) hsqueeze fun ds _ => ⟨rfl, rfl⟩
  | case5 depth c cs harrow hc ih =>
    have hblank : isBlank c = false :=
      isBlank_of_isStructural (by simp only [isStructural, hc, Bool.true_or])
    have hinside : ∀ q ∈ some c, q ∈ quotes := by simpa using hc
    refine (ih hinside).cons (depth == 0) hblank (head?_ne_of_forall harrow) fun ds hds => ?_
    rw [after_cons hds, items_cons hds, if_pos hc, if_pos hc]
    exact ⟨rfl, rfl⟩
  | case6 depth c cs harrow hnone hc ih =>
    have hblank : isBlank c = false :=
      isBlank_of_isStructural (by simp only [isStructural, hc, Bool.true_or, Bool.or_true])
    refine (ih hquote).cons (depth == 0) hblank (head?_ne_of_forall harrow) fun ds hds => ?_
    rw [after_cons hds, items_cons hds, if_neg hnone, if_neg hnone, if_pos hc, if_pos hc]
    exact ⟨rfl, rfl⟩
  | case7 depth c cs harrow hnone hother hc ih =>
    have hblank : isBlank c = false :=
      isBlank_of_isStructural (by simp only [isStructural, hc, Bool.true_or, Bool.or_true])
    refine (ih hquote).cons (depth - 1 == 0) hblank (head?_ne_of_forall harrow) fun ds hds => ?_
    rw [after_cons hds, items_cons hds]
    simp only [hnone, hother, hc, if_true, Bool.false_eq_true, if_false, and_self]
  | case8 depth c cs harrow hnone hother hc ih =>
    cases hblank : isBlank c with
    | true => exact (ih hquote).cons_of_isBlank hblank hquote
    | false =>
      refine (ih hquote).cons (depth == 0) hblank (head?_ne_of_forall harrow) fun ds hds => ?_
      rw [after_cons hds, items_cons hds]
      simp only [hnone, hother, hc, Bool.false_eq_true, if_false, and_self]

/-- Squeezing leaves balanced text balanced. -/
theorem IsBalanced.squeeze (h : IsBalanced cs) : IsBalanced (squeeze cs) := by
  intro depth
  rw [(readsSqueezed ⟨depth, none⟩ cs (by simp)).after_eq, h depth]

/-! ## Trimming -/

/-- White space behind a text leaves a reader where it was. -/
theorem after_append_of_isBlank (nesting : Nesting) (cs : List Char) (h : isBlank b = true)
    (hquote : ∀ q ∈ nesting.quote, q ∈ quotes) : nesting.after (cs ++ [b]) = nesting.after cs := by
  have hseam : ∀ {c : Char} {cs : List Char}, (c = '=' → cs.head? ≠ some '>') →
      c = '=' → (cs ++ [b]).head? ≠ some '>' := by
    intro c cs harrow heq
    cases cs with
    | nil =>
      rintro ⟨⟩
      exact absurd h (by decide)
    | cons d cs => exact harrow heq
  fun_induction Nesting.after nesting cs with
  | case1 nesting => exact (items_cons_of_isBlank nesting h hquote []).1
  | case2 depth q c cs ih => exact ih hquote
  | case3 depth q c cs hpair ih =>
    have hq : q ∈ quotes := hquote q rfl
    by_cases hescape : c = '\\'
    · have hopen : c ≠ q := by
        rintro rfl
        rw [hescape] at hq
        exact absurd hq (by decide)
      cases cs with
      | nil => rw [hescape, if_neg (hescape ▸ hopen)]; rfl
      | cons d cs => exact absurd rfl (hpair d cs hescape)
    · rw [List.cons_append, Nesting.after, ih fun r hr => mem_quotes_of_mem_ite hq hr]
      exact fun _ _ heq _ => hescape heq
  | case4 depth cs ih => exact ih hquote
  | case5 depth c cs harrow hc ih =>
    rw [List.cons_append, after_cons (hseam (head?_ne_of_forall harrow)), if_pos hc]
    exact ih (by simpa using hc)
  | case6 depth c cs harrow hnone hc ih =>
    rw [List.cons_append, after_cons (hseam (head?_ne_of_forall harrow)), if_neg hnone, if_pos hc, ih hquote]
  | case7 depth c cs harrow hnone hother hc ih =>
    rw [List.cons_append, after_cons (hseam (head?_ne_of_forall harrow)), if_neg hnone, if_neg hother,
      if_pos hc, ih hquote]
  | case8 depth c cs harrow hnone hother hc ih =>
    rw [List.cons_append, after_cons (hseam (head?_ne_of_forall harrow)), if_neg hnone, if_neg hother,
      if_neg hc, ih hquote]

/-- Dropping white space in front leaves balanced text balanced, and meets nothing new. -/
theorem IsBalanced.trimStart (h : IsBalanced cs) :
    IsBalanced (trimStart cs) ∧ items .top (trimStart cs) ⊆ items .top cs := by
  induction cs with
  | nil => exact ⟨h, fun _ hitem => hitem⟩
  | cons c cs ih =>
    cases hc : isBlank c with
    | true =>
      have hrest : IsBalanced cs := by
        intro depth
        have hwhole := h depth
        rwa [(items_cons_of_isBlank ⟨depth, none⟩ hc (by simp) cs).1] at hwhole
      obtain ⟨atTop, hitems⟩ := (items_cons_of_isBlank .top hc (by simp [Nesting.top]) cs).2
      rw [trimStart_cons_of_isBlank hc, hitems]
      exact ⟨(ih hrest).1, fun item hitem => List.mem_cons_of_mem _ ((ih hrest).2 hitem)⟩
    | false =>
      rw [trimStart_of_head? (by simpa using hc)]
      exact ⟨h, fun _ hitem => hitem⟩

/-- A balanced text with white space behind it is read as the text without. -/
theorem IsBalanced.of_append (h : IsBalanced (cs ++ [b])) (hb : isBlank b = true) :
    IsBalanced cs ∧ items .top (cs ++ [b]) = items .top cs ++ [⟨[b], true⟩] := by
  have hfront : IsBalanced cs := by
    intro depth
    have hwhole := h depth
    rwa [after_append_of_isBlank ⟨depth, none⟩ cs hb (by simp)] at hwhole
  have hseam : JoinsNoArrow cs [b] := by
    rintro - ⟨⟩
    exact absurd hb (by decide)
  refine ⟨hfront, ?_⟩
  rw [Nesting.top, (hfront.items_append hseam 0).1,
    (items_of_not_structural (isStructural_of_isBlank hb) 0 []).1]
  rfl

/-- Dropping white space behind leaves balanced text balanced, and meets nothing new. -/
theorem IsBalanced.trimEnd (h : IsBalanced cs) :
    IsBalanced (trimEnd cs) ∧ items .top (trimEnd cs) ⊆ items .top cs := by
  induction cs using List.reverseRecOn with
  | nil => exact ⟨h, fun _ hitem => hitem⟩
  | append_singleton cs c ih =>
    cases hc : isBlank c with
    | true =>
      obtain ⟨hfront, hitems⟩ := h.of_append hc
      rw [trimEnd_append_of_isBlank hc, hitems]
      exact ⟨(ih hfront).1, fun item hitem => List.mem_append_left _ ((ih hfront).2 hitem)⟩
    | false =>
      rw [trimEnd_of_getLast? (by simpa using hc)]
      exact ⟨h, fun _ hitem => hitem⟩

/-! ## Splitting -/

/-- A character that neither separates nor opens or closes anything begins the first piece. -/
theorem splitTop_cons (h : isStructural c = false) (hne : c ≠ delimiter) (cs : List Char) :
    splitTop delimiter (c :: cs) = onFirst [c] (splitTop delimiter cs) := by
  have hkept : ¬ ((0 == 0) && [c] == [delimiter]) = true := by simpa using hne
  rw [splitTop, splitTopAt, Nesting.top, (items_of_not_structural h 0 cs).1, splitItems, if_neg hkept]
  rfl

/-- White space in front of the first piece is trimmed away. -/
theorem map_trim_onFirst {pieces : List (List Char)} (h : isBlank b = true) (hne : pieces ≠ []) :
    (onFirst [b] pieces).map trim = pieces.map trim := by
  cases pieces with
  | nil => exact absurd rfl hne
  | cons first rest =>
    rw [onFirst, List.singleton_append, List.map_cons, trim_cons_of_isBlank h, List.map_cons]

/-- White space in front of a text changes none of the trimmed pieces. -/
theorem map_trim_splitTop_trimStart (hdelimiter : isBlank delimiter = false) (cs : List Char) :
    (splitTop delimiter (trimStart cs)).map trim = (splitTop delimiter cs).map trim := by
  induction cs with
  | nil => rfl
  | cons c cs ih =>
    cases hc : isBlank c with
    | true =>
      rw [trimStart_cons_of_isBlank hc, ih,
        splitTop_cons (isStructural_of_isBlank hc) (ne_of_isBlank hc hdelimiter),
        map_trim_onFirst hc (splitTop_ne_nil _ _)]
    | false => rw [trimStart_of_head? (by simpa using hc)]

/-- An item behind others that does not separate belongs to the last piece. -/
theorem exists_splitItems_concat (hne : c ≠ delimiter) (atTop : Bool) (is : List Item) :
    ∃ front last, splitItems [delimiter] is = front ++ [last] ∧
      splitItems [delimiter] (is ++ [⟨[c], atTop⟩]) = front ++ [last ++ [c]] := by
  have honFirst : ∀ (text : List Char) (front : List (List Char)) (last : List Char),
      ∃ front' last', onFirst text (front ++ [last]) = front' ++ [last'] ∧
        onFirst text (front ++ [last ++ [c]]) = front' ++ [last' ++ [c]] := by
    intro text front last
    cases front with
    | nil => exact ⟨[], text ++ last, rfl, by simp [onFirst]⟩
    | cons piece front => exact ⟨(text ++ piece) :: front, last, rfl, rfl⟩
  induction is with
  | nil =>
    have hkept : ¬ (atTop && [c] == [delimiter]) = true := by simp [hne]
    refine ⟨[], [], rfl, ?_⟩
    rw [List.nil_append, splitItems, if_neg hkept]
    rfl
  | cons item is ih =>
    obtain ⟨front, last, hpieces, hwhole⟩ := ih
    rw [List.cons_append, splitItems, splitItems, hpieces, hwhole]
    split
    · obtain ⟨front', last', hfirst, hsecond⟩ := honFirst (item.text.drop 1) front last
      exact ⟨[] :: front', last', by rw [hfirst]; rfl, by rw [hsecond]; rfl⟩
    · exact honFirst item.text front last

/-- White space behind a balanced text changes none of the trimmed pieces. -/
theorem map_trim_splitTop_trimEnd (hdelimiter : isBlank delimiter = false) (h : IsBalanced cs) :
    (splitTop delimiter (trimEnd cs)).map trim = (splitTop delimiter cs).map trim := by
  induction cs using List.reverseRecOn with
  | nil => rfl
  | append_singleton cs c ih =>
    cases hc : isBlank c with
    | true =>
      obtain ⟨hfront, hitems⟩ := h.of_append hc
      obtain ⟨front, last, hpieces, hwhole⟩ :=
        exists_splitItems_concat (ne_of_isBlank hc hdelimiter) true (items .top cs)
      rw [trimEnd_append_of_isBlank hc, ih hfront, splitTop, splitTopAt, splitTop, splitTopAt, hitems, hpieces,
        hwhole, List.map_append, List.map_append, List.map_singleton, List.map_singleton,
        trim_append_of_isBlank hc]
    | false => rw [trimEnd_of_getLast? (by simpa using hc)]

end

end BeanGen.TypeText
