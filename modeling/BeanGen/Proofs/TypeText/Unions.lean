import BeanGen.Proofs.TypeText.Printed

/-!
# Written unions

A union is written with bars between its alternatives and with any parentheses around groups of them
(`UnionText`). Brackets and quotations are closed in an alternative, so they are in the union
(`UnionText.isBalanced_text`), the bars between the alternatives are the ones at the top level
(`UnionText.map_trim_splitTop`), and no rule for other types takes the text away from the rule for unions
(`UnionText.read_either`).
-/

namespace BeanGen

open Text Java

namespace TypeText

/-! ## Written unions -/

/-- The text begins with the keyword of read-only types and white space. -/
def BeginsReadonly (cs : List Char) : Prop :=
  ∃ c rest, trimStart cs = "readonly".toList ++ c :: rest ∧ isBlank c = true

/-- Outside of brackets and quotations the text has neither separators of alternatives nor an arrow. -/
def IsWhole (cs : List Char) : Prop :=
  ∀ item ∈ items .top cs, item.atTop = true → item.text ∉ [['|'], ['&'], ['=', '>']]

/-- Type text that may stand between the bars of a union. -/
structure Alternative where
  text : List Char
  nonblank : allBlank text = false
  balanced : IsBalanced text
  whole : IsWhole text
  notReadonly : ¬ BeginsReadonly text

/-- White space around parentheses. -/
structure Gap where
  text : List Char
  blank : allBlank text = true

/-- Squeezing leaves an alternative one. -/
def Alternative.squeezed (alternative : Alternative) : Alternative where
  text := squeeze alternative.text
  nonblank := by
    obtain ⟨c, hmem, hc⟩ := List.all_eq_false.1 alternative.nonblank
    exact List.all_eq_false.2 ⟨c, mem_squeeze hmem (by simpa using hc), hc⟩
  balanced := alternative.balanced.squeeze
  whole := by
    intro item hitem htop htext
    rcases (readsSqueezed .top alternative.text (by simp [Nesting.top])).of_mem_items item hitem htop with
      hspace | hmem
    · rw [hspace] at htext
      exact absurd htext (by decide)
    · exact alternative.whole item hmem htop htext
  notReadonly := by
    rintro ⟨c, rest, hstart, hc⟩
    rw [trimStart_squeeze] at hstart
    obtain ⟨back, hback, hrest⟩ := exists_of_squeeze_eq_append (forall_eq_false_of_any rfl) hstart
    cases back with
    | nil => cases hrest
    | cons d back =>
      refine alternative.notReadonly ⟨d, back, hback, ?_⟩
      cases hd : isBlank d with
      | true => rfl
      | false =>
        rw [squeeze_cons_of_not hd] at hrest
        rw [← hd, (List.cons.inj hrest).1, hc]

/-- Squeezing leaves white space blank. -/
def Gap.squeezed (gap : Gap) : Gap where
  text := squeeze gap.text
  blank := by
    have hnil : trimStart (squeeze gap.text) = [] := by
      rw [trimStart_squeeze, trimStart_of_allBlank gap.blank]
      rfl
    exact List.all_eq_true.2 (List.dropWhile_eq_nil_iff.1 hnil)

/-- A union as it is written: bars between alternatives and parentheses around groups of them. -/
inductive UnionText where
  | atom (alternative : Alternative)
  | group (front : Gap) (inner : UnionText) (back : Gap)
  | either (left right : UnionText)

namespace UnionText

/-- The text of a union. -/
def text : UnionText → List Char
  | atom alternative => alternative.text
  | group front inner back => front.text ++ ('(' :: inner.text ++ [')']) ++ back.text
  | either left right => left.text ++ '|' :: right.text

/-- The alternatives of a union, whatever parentheses are around them. -/
def alternatives : UnionText → List Alternative
  | atom alternative => [alternative]
  | group _ inner _ => inner.alternatives
  | either left right => left.alternatives ++ right.alternatives

/-- The union without the parentheses around the whole. -/
def opened : UnionText → UnionText
  | group _ inner _ => inner.opened
  | union => union

/-- The alternatives and the groups that have no parentheses around them. -/
def members : UnionText → List UnionText
  | either left right => left.members ++ right.members
  | union => [union]

end UnionText

/-! ## The texts of unions -/

section
variable {cs : List Char}

/-- A text without the marks is whole. -/
theorem isWhole_of_forall (h : ∀ c ∈ cs, c ∉ ['|', '&', '=']) : IsWhole cs := by
  intro item hitem _ htext
  simp only [List.mem_cons, List.not_mem_nil, or_false] at htext
  have hmem : ∀ c, c ∈ item.text → c ∉ ['|', '&', '='] := fun c hc => h c (mem_of_mem_items hitem hc)
  rcases htext with htext | htext | htext <;> rw [htext] at hmem
  · exact hmem '|' (by decide) (by decide)
  · exact hmem '&' (by decide) (by decide)
  · exact hmem '=' (by decide) (by decide)

/-- White space is whole. -/
theorem isWhole_of_allBlank (h : allBlank cs = true) : IsWhole cs := by
  refine isWhole_of_forall fun c hc hmark => ?_
  have hmarks : ∀ c ∈ ['|', '&', '='], isBlank c = false := forall_eq_false_of_any rfl
  exact ne_of_isBlank (List.all_eq_true.1 h c hc) (hmarks c hmark) rfl

/-- A text that is closed by the bracket it begins with is whole. -/
theorem isWhole_of_closesAtEnd (h : closesAtEnd cs = true) : IsWhole cs := by
  intro item hitem htop htext
  obtain ⟨c, hc, hbracket⟩ := exists_of_atTop_of_closesAtEnd h hitem htop
  rw [hc] at htext
  simp only [List.mem_cons, List.cons.injEq, and_true, List.not_mem_nil, or_false] at htext
  rcases htext with rfl | rfl | ⟨-, hnil⟩
  · revert hbracket
    decide
  · revert hbracket
    decide
  · cases hnil

/-- One whole text after the other is whole. -/
theorem IsWhole.append {xs ys : List Char} (hxs : IsWhole xs) (hys : IsWhole ys) (hbalanced : IsBalanced xs)
    (hseam : JoinsNoArrow xs ys) : IsWhole (xs ++ ys) := by
  intro item hitem
  rw [Nesting.top, (hbalanced.items_append hseam 0).1, List.mem_append] at hitem
  exact hitem.elim (hxs item) (hys item)

end

namespace UnionText

/-- The parentheses around a balanced text close at the end. -/
theorem balanced_and_closes {cs : List Char} (h : IsBalanced cs) :
    IsBalanced ('(' :: cs ++ [')']) ∧ closesAtEnd ('(' :: cs ++ [')']) = true := by
  have hseam : JoinsNoArrow cs [')'] := fun _ hhead => absurd hhead (by decide)
  exact ⟨h.bracket (by decide) (by decide) hseam, closesAtEnd_bracket h (by decide) (by decide) hseam⟩

/-- White space in front of a text joins no arrow, and neither does a text in front of white space. -/
theorem joinsNoArrow_gap (gap : Gap) (cs : List Char) :
    JoinsNoArrow cs gap.text ∧ JoinsNoArrow gap.text cs := by
  have hnone : ∀ c, isBlank c = false → c ∉ gap.text :=
    fun c hc hmem => ne_of_isBlank (List.all_eq_true.1 gap.blank c hmem) hc rfl
  exact ⟨fun _ hhead => hnone '>' (by decide) (List.mem_of_mem_head? hhead),
    joinsNoArrow_of_notMem (hnone '=' (by decide))⟩

/-- The text of a union is balanced. -/
theorem isBalanced_text : ∀ union : UnionText, IsBalanced union.text
  | atom alternative => alternative.balanced
  | group front inner back => by
    have hinner := (balanced_and_closes inner.isBalanced_text).1
    exact ((isBalanced_of_blank front.blank).append hinner (joinsNoArrow_gap front _).2).append
      (isBalanced_of_blank back.blank) (joinsNoArrow_gap back _).1
  | either left right => by
    have hbar : IsBalanced ('|' :: right.text) := by
      intro depth
      rw [(items_of_not_structural rfl depth _).2, right.isBalanced_text depth]
    exact left.isBalanced_text.append hbar fun _ => by simp

/-- A group in parentheses is whole. -/
theorem isWhole_group (front : Gap) (inner : UnionText) (back : Gap) :
    IsWhole (group front inner back).text := by
  obtain ⟨hbalanced, hcloses⟩ := balanced_and_closes inner.isBalanced_text
  have hfront := isBalanced_of_blank front.blank
  have hseam := (joinsNoArrow_gap front ('(' :: inner.text ++ [')'])).2
  exact ((isWhole_of_allBlank front.blank).append (isWhole_of_closesAtEnd hcloses) hfront hseam).append
    (isWhole_of_allBlank back.blank) (hfront.append hbalanced hseam) (joinsNoArrow_gap back _).1

/-- There is no arrow in a union but in brackets and quotations. -/
theorem ne_arrow_of_mem_items : ∀ union : UnionText, ∀ item ∈ items .top union.text, item.atTop = true →
    item.text ≠ ['=', '>']
  | atom alternative, item, hitem, htop => fun htext =>
    alternative.whole item hitem htop (by rw [htext]; decide)
  | group front inner back, item, hitem, htop => fun htext =>
    isWhole_group front inner back item hitem htop (by rw [htext]; decide)
  | either left right, item, hitem, htop => by
    rw [text, items_append_cons rfl (left.isBalanced_text 0)] at hitem
    rcases List.mem_append.1 hitem with hleft | hright
    · exact left.ne_arrow_of_mem_items item hleft htop
    rcases List.mem_cons.1 hright with rfl | hright
    · decide
    · exact right.ne_arrow_of_mem_items item hright htop

/-- White space in front of a group and behind it is trimmed away. -/
theorem trimStart_group (front : Gap) (inner : UnionText) (back : Gap) :
    trimStart (group front inner back).text = '(' :: inner.text ++ [')'] ++ back.text := by
  rw [text, List.append_assoc, List.cons_append, List.cons_append, trimStart_append_cons rfl,
    trimStart_of_allBlank front.blank, List.nil_append, ← List.cons_append, ← List.cons_append]

theorem trim_group (front : Gap) (inner : UnionText) (back : Gap) :
    trim (group front inner back).text = '(' :: inner.text ++ [')'] := by
  rw [trim, trimStart_group, List.append_assoc, List.singleton_append, trimEnd_append_cons rfl,
    trimEnd_of_allBlank back.blank]

/-- A union begins with something else than a separator, and not with the keyword of read-only types. -/
theorem begins_text : ∀ union : UnionText,
    (∃ c rest, trimStart union.text = c :: rest ∧ c ∉ ['|', '&']) ∧ ¬ BeginsReadonly union.text
  | atom alternative => by
    have hne : trimStart alternative.text ≠ [] := by
      intro hnil
      refine trim_ne_nil alternative.nonblank ?_
      rw [trim, hnil]
      rfl
    obtain ⟨c, rest, hstart⟩ := List.exists_cons_of_ne_nil hne
    refine ⟨⟨c, rest, hstart, fun hmark => ?_⟩, alternative.notReadonly⟩
    have hplain : isStructural c = false := by
      have hmarks : ∀ c ∈ ['|', '&'], isStructural c = false := forall_eq_false_of_any rfl
      exact hmarks c hmark
    have hitem : ⟨[c], true⟩ ∈ items .top alternative.text := by
      refine alternative.balanced.trimStart.2 ?_
      rw [hstart, Nesting.top, (items_of_not_structural hplain 0 rest).1]
      exact List.mem_cons_self
    refine alternative.whole _ hitem rfl ?_
    simp only [List.mem_cons, List.not_mem_nil, or_false] at hmark
    rcases hmark with rfl | rfl <;> decide
  | group front inner back => by
    refine ⟨⟨'(', _, trimStart_group front inner back, by decide⟩, ?_⟩
    rintro ⟨c, rest, hstart, -⟩
    rw [trimStart_group] at hstart
    cases hstart
  | either left right => by
    obtain ⟨⟨c, rest, hstart, hc⟩, hreadonly⟩ := left.begins_text
    have hwhole : trimStart (either left right).text = trimStart left.text ++ '|' :: right.text := by
      rw [text, trimStart_append_cons rfl]
    refine ⟨⟨c, _, by rw [hwhole, hstart, List.cons_append], hc⟩, ?_⟩
    rintro ⟨d, back, hkeyword, hd⟩
    rw [hwhole, List.append_eq_append_iff] at hkeyword
    have hbar : d ≠ '|' := ne_of_isBlank hd rfl
    rcases hkeyword with ⟨between, hfront, hback⟩ | ⟨between, hfront, hback⟩
    · cases between with
      | nil => exact hbar (List.cons.inj hback).1.symm
      | cons e between =>
        obtain rfl : '|' = e := (List.cons.inj hback).1
        have hmem : '|' ∈ "readonly".toList := by
          rw [hfront]
          simp
        exact absurd hmem (by decide)
    · cases between with
      | nil => exact hbar (List.cons.inj hback).1
      | cons e between =>
        obtain rfl : d = e := (List.cons.inj hback).1
        exact hreadonly ⟨d, between, hfront, hd⟩

end UnionText

/-! ## Reading unions -/

section
variable {xs ys : List Char}

theorem isTextLike_trim (cs : List Char) : isTextLike (trim cs) = isTextLike cs := by
  rw [isTextLike, isTextLike, trim_trim]

/-- Text with a bar at the top level is no generic type. -/
theorem generic?_append_bar (hxs : Nesting.top.after xs = .top) : generic? (xs ++ '|' :: ys) = none := by
  generalize hcs : xs ++ '|' :: ys = cs
  have hbar : ⟨['|'], true⟩ ∈ items .top cs := by
    rw [← hcs, items_append_cons rfl hxs]
    simp
  rw [generic?, if_neg]
  simp only [Bool.and_eq_true]
  rintro ⟨⟨-, hname⟩, hcloses⟩
  have hsplit : before '<' cs ++ cs.dropWhile (· != '<') = cs := List.takeWhile_append_dropWhile
  have hpart : ∀ c ∈ before '<' cs, isBlank c = true ∨ isWordPart c = true := by
    intro c hc
    cases hblank : isBlank c with
    | true => exact .inl rfl
    | false => exact .inr (isWordPart_of_isQualifiedName hname (mem_trim hc hblank))
  have hnone : ∀ c, isBlank c = false → isWordPart c = false → c ∉ before '<' cs := by
    intro c hblank hword hmem
    rcases hpart c hmem with h | h
    · rw [hblank] at h
      cases h
    · rw [hword] at h
      cases h
  have hbalanced : IsBalanced (before '<' cs) := isBalanced_of_forall fun c hc =>
    (hpart c hc).elim isStructural_of_isBlank isStructural_of_isWordPart
  have hseam : JoinsNoArrow (before '<' cs) (cs.dropWhile (· != '<')) :=
    joinsNoArrow_of_notMem (hnone '=' (by decide) (by decide))
  rw [← hsplit, Nesting.top, (hbalanced.items_append hseam 0).1, List.mem_append] at hbar
  rcases hbar with hfront | hback
  · exact hnone '|' (by decide) (by decide) (mem_of_mem_items hfront List.mem_cons_self)
  · exact isWhole_of_closesAtEnd hcloses _ hback rfl (by decide)

/-- Text with a bar at the top level is read as a union, unless it begins and ends as a template literal
does. -/
theorem read_append_bar (hxs : Nesting.top.after xs = .top) (harrow : hasTopArrow (xs ++ '|' :: ys) = false)
    (hreadonly : "readonly ".toList.isPrefixOf (xs ++ '|' :: ys) = false) :
    read (xs ++ '|' :: ys) = .settled (if isTemplate (xs ++ '|' :: ys) ||
      ((splitTop '|' (xs ++ '|' :: ys)).filter (!allBlank ·)).all isTextLike then .text else .object) := by
  have hgeneric : generic? (xs ++ '|' :: ys) = none := generic?_append_bar hxs
  have hcut : 1 < (splitTop '|' (xs ++ '|' :: ys)).length := by
    rw [splitTop_append_cons rfl hxs, List.length_append]
    have hfront := List.length_pos_iff.2 (splitTop_ne_nil '|' xs)
    have hback := List.length_pos_iff.2 (splitTop_ne_nil '|' ys)
    omega
  have hcloses : closesAtEnd (xs ++ '|' :: ys) = false := by
    rw [← Bool.not_eq_true]
    intro hcloses
    refine isWhole_of_closesAtEnd hcloses ⟨['|'], true⟩ ?_ rfl (by decide)
    rw [items_append_cons rfl hxs]
    simp
  have hempty : (xs ++ '|' :: ys).isEmpty = false := by simp
  rw [read, hempty, hcloses, hreadonly, hgeneric]
  simp only [Bool.and_false, Bool.false_eq_true, if_false]
  rw [readPlain, harrow, hcloses, if_pos hcut]
  cases isTemplate (xs ++ '|' :: ys) <;> simp

end

namespace UnionText

/-- There is something in a union. -/
theorem nonblank_text : ∀ union : UnionText, allBlank union.text = false
  | atom alternative => alternative.nonblank
  | group front inner back => List.all_eq_false.2 ⟨'(', by simp [text], by decide⟩
  | either left right => List.all_eq_false.2 ⟨'|', by simp [text], by decide⟩

/-- Trimmed pieces of a union are its members. -/
theorem map_trim_splitTop : ∀ union : UnionText,
    (splitTop '|' union.text).map trim = union.members.map fun member => trim member.text
  | atom alternative => by
    rw [text, splitTop_of_forall fun item hitem htop htext => ?_]
    · rfl
    · exact alternative.whole item hitem htop (by rw [htext]; decide)
  | group front inner back => by
    rw [splitTop_of_forall fun item hitem htop htext => ?_]
    · rfl
    · exact isWhole_group front inner back item hitem htop (by rw [htext]; decide)
  | either left right => by
    rw [members, text, splitTop_append_cons rfl (left.isBalanced_text 0), List.map_append, List.map_append,
      left.map_trim_splitTop, right.map_trim_splitTop]

/-- White space is trimmed away in front of the first alternative and behind the last. -/
theorem trim_either (left right : UnionText) :
    trim (either left right).text = trimStart left.text ++ '|' :: trimEnd right.text := by
  rw [trim, text, trimStart_append_cons rfl, trimEnd_append_cons rfl]

/-- The type that a union stands for when it has no parentheses around the whole: `String` when it begins
and ends as a template literal does, or when each member looks like a text. -/
theorem read_either (left right : UnionText) : read (trim (either left right).text) =
    .settled (if isTemplate (trim (either left right).text) ||
      (either left right).members.all (isTextLike ·.text) then .text else .object) := by
  have hleft := left.isBalanced_text.trimStart
  have hright := right.isBalanced_text.trimEnd
  have hpieces : (splitTop '|' (trim (either left right).text)).map trim =
      (either left right).members.map fun member => trim member.text := by
    rw [trim_either, splitTop_append_cons rfl (hleft.1 0), List.map_append, map_trim_splitTop_trimStart rfl,
      map_trim_splitTop_trimEnd rfl right.isBalanced_text, left.map_trim_splitTop, right.map_trim_splitTop,
      members, List.map_append]
  have hverdict : ((splitTop '|' (trim (either left right).text)).filter (!allBlank ·)).all isTextLike =
      (either left right).members.all (isTextLike ·.text) := by
    have htrimmed : ∀ pieces : List (List Char), (pieces.filter (!allBlank ·)).all isTextLike =
        (pieces.map trim).all fun piece => allBlank piece || isTextLike piece := by
      intro pieces
      simp [List.all_filter, List.all_map, Function.comp_def, allBlank_trim, isTextLike_trim]
    rw [htrimmed, hpieces, List.all_map]
    simp [Function.comp_def, allBlank_trim, isTextLike_trim, nonblank_text]
  have harrow : hasTopArrow (trim (either left right).text) = false := by
    rw [hasTopArrow, List.any_eq_false, trim_either, items_append_cons rfl (hleft.1 0)]
    intro item hitem htop
    rw [Bool.and_eq_true, beq_iff_eq] at htop
    rcases List.mem_append.1 hitem with hitem | hitem
    · exact left.ne_arrow_of_mem_items item (hleft.2 hitem) htop.1 htop.2
    rcases List.mem_cons.1 hitem with rfl | hitem
    · exact absurd htop.2 (by decide)
    · exact right.ne_arrow_of_mem_items item (hright.2 hitem) htop.1 htop.2
  have hreadonly : "readonly ".toList.isPrefixOf (trim (either left right).text) = false := by
    rw [← Bool.not_eq_true, List.isPrefixOf_iff_prefix]
    have htrimmed := trimEnd_prefix (trimStart (either left right).text)
    intro hkeyword
    obtain ⟨rest, hrest⟩ := hkeyword.trans htrimmed
    exact (either left right).begins_text.2 ⟨' ', rest, hrest.symm, by decide⟩
  rw [← hverdict]
  rw [trim_either] at harrow hreadonly ⊢
  exact read_append_bar (hleft.1 0) harrow hreadonly

/-! ## Normal form of unions -/

/-- Parentheses around a group are taken off. -/
theorem unwrapParens_group (front : Gap) (inner : UnionText) (back : Gap) :
    unwrapParens (trim (group front inner back).text) = unwrapParens (trim inner.text) := by
  have hcloses := (balanced_and_closes inner.isBalanced_text).2
  rw [trim_group, unwrapParens, if_pos ⟨rfl, hcloses⟩]
  simp

/-- Between alternatives there are no parentheses around the whole. -/
theorem unwrapParens_either (left right : UnionText) :
    unwrapParens (trim (either left right).text) = trim (either left right).text := by
  rw [unwrapParens, if_neg]
  rintro ⟨-, hcloses⟩
  refine isWhole_of_closesAtEnd hcloses ⟨['|'], true⟩ ?_ rfl (by decide)
  rw [trim_either, items_append_cons rfl (left.isBalanced_text.trimStart.1 0)]
  simp

/-- The union with its white space squeezed. -/
def squeezed : UnionText → UnionText
  | atom alternative => atom alternative.squeezed
  | group front inner back => group front.squeezed inner.squeezed back.squeezed
  | either left right => either left.squeezed right.squeezed

theorem text_squeezed : ∀ union : UnionText, union.squeezed.text = squeeze union.text
  | atom _ => rfl
  | group front inner back => by
    have hgroup : (group front inner back).text =
        front.text ++ '(' :: (inner.text ++ ')' :: back.text) := by
      simp [text]
    rw [hgroup, squeeze_append_cons rfl, squeeze_append_cons rfl, ← inner.text_squeezed]
    simp [squeezed, text, Gap.squeezed]
  | either left right => by
    rw [squeezed, text, left.text_squeezed, right.text_squeezed, text, squeeze_append_cons rfl]

theorem opened_squeezed : ∀ union : UnionText, union.squeezed.opened = union.opened.squeezed
  | atom _ => rfl
  | group _ inner _ => inner.opened_squeezed
  | either _ _ => rfl

theorem members_squeezed : ∀ union : UnionText, union.squeezed.members = union.members.map squeezed
  | atom _ => rfl
  | group _ _ _ => rfl
  | either left right => by
    rw [squeezed, members, left.members_squeezed, right.members_squeezed, members, List.map_append]

end UnionText

end TypeText

end BeanGen
