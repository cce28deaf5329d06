import BeanGen.Proofs.Java.Name
import BeanGen.Proofs.Script.Written

/-!
# Tokens of written declarations

What the readers of tokens find in printed text. In front of a mark everything can be computed, because
the first characters are known; the lemmas here are about text that begins with a word, of which only
the kinds of its characters are known.
-/

namespace BeanGen.Script

open Written (Name keywords)

/-! ## Characters -/

section
variable {c : Char} {cs : List Char} {follow : Follow}

/-- A token can begin with the character, and neither a comment nor the end of a phrase does. -/
def isSolid (c : Char) : Bool :=
  !isSpace c && !(['/', '<', '-', '\x7d', '\x00', gapStart].contains c)

theorem spec_of_isSolid (h : isSolid c = true) :
    isSpace c = false ∧ c ≠ '/' ∧ c ≠ '<' ∧ c ≠ '-' ∧ c ≠ '\x7d' ∧ c ≠ '\x00' ∧ c ≠ gapStart := by
  simpa [isSolid] using h

theorem isSolid_of_isNamePart (h : isNamePart c = true) : isSolid c = true := by
  simp only [isNamePart, Bool.and_eq_true, decide_eq_true_eq, Bool.not_eq_true', bne_iff_ne] at h
  obtain ⟨⟨⟨⟨hcontrol, hspace⟩, hbreaker⟩, hgap⟩, -⟩ := h
  have hne : ∀ d ∈ nameBreakers, c ≠ d := by
    rintro d hd rfl
    rw [List.contains_iff_mem.2 hd] at hbreaker
    cases hbreaker
  have hnull : c ≠ '\x00' := by
    rintro rfl
    exact absurd hcontrol (by decide)
  simp [isSolid, hspace, hgap, hnull, hne '/' (by decide), hne '<' (by decide), hne '-' (by decide),
    hne '\x7d' (by decide)]

theorem commentLength_cons (h : c ≠ '/') : commentLength (c :: cs) = 0 := by
  unfold commentLength
  split <;> simp_all

theorem asideLength_cons (hless : c ≠ '<') (hminus : c ≠ '-') : asideLength (c :: cs) = 0 := by
  unfold asideLength
  split <;> simp_all

/-- The rest of a comment is passed over. -/
theorem skipFrom_append (text cs : List Char) : skipFrom text.length (text ++ cs) = skipFrom 0 cs := by
  induction text with
  | nil => rfl
  | cons c text ih => rw [List.length_cons, List.cons_append, skipFrom, ih]

/-- Nothing stands in front of a solid character. -/
theorem skip_cons (h : isSolid c = true) : skip (c :: cs) = c :: cs := by
  obtain ⟨hspace, hslash, hless, hminus, -, -, hgap⟩ := spec_of_isSolid h
  rw [skip, skipFrom, if_neg (by simp [hspace]), commentLength_cons hslash, asideLength_cons hless hminus,
    gapLength, if_neg hgap]
  rfl

/-- A phrase does not end in front of a solid character. -/
theorem endsAt_cons (h : isSolid c = true) : endsAt follow (c :: cs) = false := by
  obtain ⟨hspace, -, -, -, hbrace, hnull, hgap⟩ := spec_of_isSolid h
  have hzero : (c.toNat == 0) = false := by
    rw [beq_eq_false_iff_ne]
    intro hzero
    exact hnull (by rw [← Char.ofNat_toNat c, hzero])
  unfold endsAt
  split
  · simp_all
  · simp_all [isSpace]
  · simp_all
  · simp_all [isParting]

/-- A solid character is what the text goes on with. -/
theorem ahead_cons (h : isSolid c = true) : ahead follow (c :: cs) = c :: cs := by
  rw [ahead, endsAt_cons h, Bool.and_false, if_neg (by simp)]
  obtain ⟨hspace, hslash, hless, hminus, -, -, hgap⟩ := spec_of_isSolid h
  rw [aheadFrom, if_neg (by simp [hspace]), if_neg hgap, commentLength_cons hslash,
    asideLength_cons hless hminus, ite_self]
  rfl

/-- What follows one space is what follows none. -/
theorem ahead_space : ahead follow (' ' :: cs) = ahead follow cs := by
  rfl

/-- A sign of less is a token, unless it begins an aside. -/
theorem ahead_angle (h : cs.head? ≠ some '!') : ahead follow ('<' :: cs) = '<' :: cs := by
  have haside : asideLength ('<' :: cs) = 0 := by
    unfold asideLength
    split <;> simp_all
  have hends : endsAt follow ('<' :: cs) = false := rfl
  rw [ahead, hends, Bool.and_false, if_neg (by simp), aheadFrom, if_neg (by decide), if_neg (by decide),
    haside, ite_self]
  rfl

theorem skip_angle (h : cs.head? ≠ some '!') : skip ('<' :: cs) = '<' :: cs := by
  have haside : asideLength ('<' :: cs) = 0 := by
    unfold asideLength
    split <;> simp_all
  rw [skip, skipFrom, if_neg (by decide), haside]
  rfl

/-- So is a sign that no second one follows. -/
theorem skip_minus (h : cs.head? ≠ some '-') : skip ('-' :: cs) = '-' :: cs := by
  have haside : asideLength ('-' :: cs) = 0 := by
    unfold asideLength
    split <;> simp_all
  rw [skip, skipFrom, if_neg (by decide), haside]
  rfl

theorem mark?_of_head? {mark : String} {m : Char} (hmark : mark.toList.head? = some m)
    (h : cs.head? ≠ some m) : mark? mark cs = none := by
  cases hlist : mark.toList with
  | nil =>
    rw [hlist] at hmark
    cases hmark
  | cons d ds =>
    obtain rfl : d = m := by simpa [hlist] using hmark
    have hprefix : (d :: ds).isPrefixOf cs = false := by
      cases cs with
      | nil => rfl
      | cons c cs =>
        have hne : d ≠ c := fun heq => h (by rw [heq]; rfl)
        rw [List.isPrefixOf_cons_cons, beq_false_of_ne hne, Bool.false_and]
    rw [mark?, hlist, hprefix, if_neg (by simp)]

end

/-! ## Words -/

section
variable {w k : List Char} {follow : Follow} {word mark : String}

/-- Characters of names, without a digit in front. -/
def isWord (cs : List Char) : Bool :=
  !cs.isEmpty && !cs.head?.any isDigit && cs.all isNamePart

/-- A word ends in front of this text. -/
def endsWord (cs : List Char) : Bool :=
  !cs.head?.any fun c => isNamePart c || c == '\\'

/-- The mark begins with a character that no name has. -/
def isMark (mark : String) : Bool :=
  mark.toList.head?.any fun c => !isNamePart c

theorem exists_of_isWord (hw : isWord w = true) : ∃ c cs, w = c :: cs ∧ isDigit c = false ∧
    ∀ d ∈ c :: cs, isNamePart d = true := by
  cases w with
  | nil => cases hw
  | cons c cs =>
    simp only [isWord, List.isEmpty_cons, Bool.not_false, List.head?_cons, Option.any_some, Bool.true_and,
      Bool.and_eq_true, Bool.not_eq_true', List.all_eq_true] at hw
    exact ⟨c, cs, rfl, hw.1, hw.2⟩

/-- A name is read up to where it ends. -/
theorem namePartsLength_append (hw : ∀ c ∈ w, isNamePart c = true) (hk : endsWord k = true) :
    namePartsLength 0 (w ++ k) = w.length := by
  induction w with
  | nil =>
    cases k with
    | nil => rfl
    | cons c k =>
      have hend : isNamePart c = false ∧ c ≠ '\\' := by simpa [endsWord] using hk
      have hescape : escapedLength (c :: k) = 0 := by
        unfold escapedLength
        split <;> simp_all
      rw [List.nil_append, namePartsLength, if_neg (by simp [hend.1]), hescape]
      rfl
  | cons c w ih =>
    rw [List.cons_append, namePartsLength, if_pos (hw c List.mem_cons_self),
      ih fun d hd => hw d (List.mem_cons_of_mem c hd), List.length_cons, Nat.add_comm]

theorem nameLength_append (hw : isWord w = true) (hk : endsWord k = true) :
    nameLength (w ++ k) = w.length := by
  obtain ⟨c, cs, rfl, hdigit, hparts⟩ := exists_of_isWord hw
  rw [nameLength, if_neg (by simp [hdigit])]
  exact namePartsLength_append hparts hk

theorem word?_append (hw : isWord w = true) (hk : endsWord k = true) : word? (w ++ k) = some (w, k) := by
  obtain ⟨c, cs, rfl, -⟩ := exists_of_isWord hw
  rw [word?, nameLength_append hw hk, cut?, if_neg (by simp), List.splitAt_eq, List.take_left,
    List.drop_left]

theorem head?_append_ne (hw : isWord w = true) {m : Char} (hm : isNamePart m = false) :
    (w ++ k).head? ≠ some m := by
  obtain ⟨c, cs, rfl, -, hparts⟩ := exists_of_isWord hw
  rintro heq
  obtain rfl : c = m := by simpa using heq
  rw [hparts c List.mem_cons_self] at hm
  cases hm

theorem mark?_append (hw : isWord w = true) (hmark : isMark mark = true) : mark? mark (w ++ k) = none := by
  rw [isMark, Option.any_eq_true] at hmark
  obtain ⟨m, hhead, hm⟩ := hmark
  exact mark?_of_head? hhead (head?_append_ne hw (by simpa using hm))

theorem atMark_eq (cs : List Char) : atMark mark cs = (mark? mark cs).isSome := by
  rw [atMark, mark?]
  cases mark.toList.isPrefixOf cs <;> rfl

theorem atMark_append (hw : isWord w = true) (hmark : isMark mark = true) : atMark mark (w ++ k) = false := by
  rw [atMark_eq, mark?_append hw hmark]
  rfl

theorem atAnyMark_append {marks : List String} (hw : isWord w = true)
    (hmarks : ∀ mark ∈ marks, isMark mark = true) : atAnyMark marks (w ++ k) = false :=
  List.any_eq_false.2 fun mark hmark => by rw [atMark_append hw (hmarks mark hmark)]; simp

theorem skip_append (hw : isWord w = true) : skip (w ++ k) = w ++ k := by
  obtain ⟨c, cs, rfl, -, hparts⟩ := exists_of_isWord hw
  exact skip_cons (isSolid_of_isNamePart (hparts c List.mem_cons_self))

theorem ahead_append (hw : isWord w = true) : ahead follow (w ++ k) = w ++ k := by
  obtain ⟨c, cs, rfl, -, hparts⟩ := exists_of_isWord hw
  exact ahead_cons (isSolid_of_isNamePart (hparts c List.mem_cons_self))

end

/-! ## Names -/

section
variable {name : Name} {cs k : List Char} {word mark : String}

theorem isIdentifier_chars (name : Name) : ∃ c cs, name.chars = c :: cs ∧ Java.isNameStart c = true ∧
    ∀ d ∈ c :: cs, Java.isNamePart d = true := by
  have hvalid := name.valid
  rw [Name.chars]
  cases hchars : name.text.toList with
  | nil =>
    rw [hchars] at hvalid
    cases hvalid
  | cons c cs =>
    rw [hchars, Written.isIdentifier, Bool.and_eq_true, List.all_eq_true] at hvalid
    refine ⟨c, cs, rfl, hvalid.1, fun d hd => ?_⟩
    rcases List.mem_cons.1 hd with rfl | hd
    · exact Java.isNamePart_of_isNameStart hvalid.1
    · exact hvalid.2 d hd

theorem isNamePart_of_mem_chars {c : Char} (h : c ∈ name.chars) : Java.isNamePart c = true := by
  obtain ⟨first, cs, hchars, -, hparts⟩ := isIdentifier_chars name
  rw [hchars] at h
  exact hparts c h

theorem isWord_chars (name : Name) : isWord name.chars = true := by
  obtain ⟨c, cs, hchars, hstart, hparts⟩ := isIdentifier_chars name
  have hdigit : isDigit c = false := by
    have h := Java.of_isNamePart (p := fun c => !Java.isNameStart c || !isDigit c) (hparts c List.mem_cons_self)
      (by decide)
    simpa [hstart] using h
  have hall : (c :: cs).all isNamePart = true :=
    List.all_eq_true.2 fun d hd => Java.of_isNamePart (hparts d hd) (by decide)
  rw [isWord, hchars, hall, List.head?_cons, Option.any_some, hdigit]
  rfl

theorem chars_ne (hword : word ∈ keywords) : name.chars ≠ word.toList :=
  fun heq => name.free (String.toList_inj.1 heq ▸ hword)

theorem beq_chars (hword : word ∈ keywords) : (name.chars == word.toList) = false :=
  beq_false_of_ne (chars_ne hword)

theorem keyword?_name (hword : word ∈ keywords) (hk : endsWord k = true) :
    keyword? word (name.chars ++ k) = none := by
  rw [keyword?, word?_append (isWord_chars name) hk]
  exact if_neg (chars_ne hword)

theorem anyKeyword?_name {words : List String} (hwords : ∀ word ∈ words, word ∈ keywords)
    (hk : endsWord k = true) : anyKeyword? words (name.chars ++ k) = none :=
  List.findSome?_eq_none_iff.2 fun word hword => keyword?_name (hwords word hword) hk

/-! ## A name as the next token -/

theorem nextWord?_of_skip (hcs : skip cs = name.chars ++ k) (hk : endsWord k = true) :
    nextWord? cs = some (name.chars, k) := by
  rw [nextWord?, hcs, word?_append (isWord_chars name) hk]

theorem nextMark?_of_skip (hcs : skip cs = name.chars ++ k) (hmark : isMark mark = true) :
    nextMark? mark cs = none := by
  rw [nextMark?, hcs, mark?_append (isWord_chars name) hmark]

theorem nextKeyword?_of_skip (hcs : skip cs = name.chars ++ k) (hword : word ∈ keywords)
    (hk : endsWord k = true) : nextKeyword? word cs = none := by
  rw [nextKeyword?, hcs, keyword?_name hword hk]

end

/-! ## Between tokens -/

/-- White space and comments: a text that is passed over, whatever follows it. -/
structure Trivia where
  text : List Char
  skip_append : ∀ cs, skip (text ++ cs) = skip cs

namespace Trivia

/-- Spaces. -/
def spaces (count : Nat) : Trivia where
  text := List.replicate count ' '
  skip_append cs := by
    induction count with
    | zero => rfl
    | succ count ih => exact ih

/-- A line break. -/
def lineBreak : Trivia := ⟨['\n'], fun _ => rfl⟩

/-- One behind the other. -/
def append (front back : Trivia) : Trivia where
  text := front.text ++ back.text
  skip_append cs := by rw [List.append_assoc, front.skip_append, back.skip_append]

end Trivia

/-! ## Repetitions -/

section
variable {step : List Char → Option (List Char)} {cs rest : List Char}

theorem repeated_of_none (h : step cs = none) (n : Nat) : repeated step n cs = cs := by
  cases n with
  | zero => rfl
  | succ n => rw [repeated, h]

theorem repeated_of_some (h : step cs = some rest) (n : Nat) :
    repeated step (n + 1) cs = repeated step n rest := by
  rw [repeated, h]

end

/-- A row of pieces is at least as long as there are pieces, so its length bounds the repetitions. -/
theorem length_le_length_flatMap {α : Type} {f : α → List Char} (h : ∀ x, f x ≠ []) (xs : List α) :
    xs.length ≤ (xs.flatMap f).length := by
  induction xs with
  | nil => exact Nat.zero_le _
  | cons x xs ih =>
    have hpos := List.length_pos_of_ne_nil (h x)
    rw [List.flatMap_cons, List.length_append, List.length_cons]
    omega

/-- What was read is the text up to what follows it. -/
theorem textBefore_append (front rest : List Char) : textBefore rest (front ++ rest) = front := by
  rw [textBefore, List.length_append, Nat.add_sub_cancel, List.take_left]

end BeanGen.Script
