import BeanGen.Proofs.Text.Blank
import BeanGen.Render.EnumBody
import Mathlib.Data.List.Induction

/-!
# The integers of enum constants

A value of an enum constant is an integer when it is a literal of one (`IntegerLiteral`) that fits 32 bits, with
white space around it (`WritesInt`). Digits may be those of any script. This is what the reader of values accepts
(`enumInteger?_eq_some_iff`).
-/

namespace BeanGen

open Text

/-- Decimal digits write a number: the digit in front counts ten times as much as the next one. -/
inductive Numeral : List Char → Nat → Prop where
  | digit {c : Char} {d : Nat} (h : digitValue? c = some d) : Numeral [c] d
  | concat {cs : List Char} {c : Char} {n d : Nat} (hcs : Numeral cs n) (h : digitValue? c = some d) :
      Numeral (cs ++ [c]) (10 * n + d)

/-- Decimal digits, or a sign and decimal digits, write an integer. -/
inductive IntegerLiteral : List Char → Int → Prop where
  | unsigned {cs : List Char} {n : Nat} (h : Numeral cs n) : IntegerLiteral cs n
  | plus {cs : List Char} {n : Nat} (h : Numeral cs n) : IntegerLiteral ('+' :: cs) n
  | minus {cs : List Char} {n : Nat} (h : Numeral cs n) : IntegerLiteral ('-' :: cs) (-n)

/-- The text is a literal of an integer of 32 bits. White space around it does not count. -/
def WritesInt (text : String) (n : Int) : Prop :=
  (∃ front literal back, text.toList = front ++ literal ++ back ∧
    (∀ c ∈ front, isBlank c = true) ∧ (∀ c ∈ back, isBlank c = true) ∧ IntegerLiteral literal n) ∧
  -2147483648 ≤ n ∧ n ≤ 2147483647

/-! ## Digits -/

section
variable {cs : List Char} {c : Char} {n : Nat}

/-- A digit is no white space and no sign. -/
theorem spec_of_digitValue? {d : Nat} (h : digitValue? c = some d) :
    isBlank c = false ∧ c ≠ '+' ∧ c ≠ '-' := by
  have hscripts : ∀ first ∈ zeroDigits, ∀ k < 10, isBlank (Char.ofNat (first + k)) = false := by decide +kernel
  obtain ⟨first, hfind, -⟩ := Option.map_eq_some_iff.1 h
  have hrange := List.find?_some hfind
  simp only [Bool.and_eq_true, decide_eq_true_eq] at hrange
  refine ⟨?_, ?_, ?_⟩
  · have hc := hscripts first (List.mem_of_find?_eq_some hfind) (c.toNat - first) (by omega)
    rwa [Nat.add_sub_cancel' hrange.1, Char.ofNat_toNat] at hc
  · rintro rfl
    revert h
    decide +revert
  · rintro rfl
    revert h
    decide +revert

/-- One more digit behind others. -/
theorem decimalValue?_concat (cs : List Char) (c : Char) : decimalValue? (cs ++ [c]) =
    (decimalValue? cs).bind fun n => (digitValue? c).map (10 * n + ·) := by
  rw [decimalValue?, List.foldl_append, ← decimalValue?, List.foldl_cons, List.foldl_nil]
  cases decimalValue? cs <;> cases digitValue? c <;> rfl

/-- Reading digits from the left gives the number that they write. -/
theorem numeral_iff : Numeral cs n ↔ cs ≠ [] ∧ decimalValue? cs = some n := by
  constructor
  · intro h
    induction h with
    | @digit c d h =>
      refine ⟨List.cons_ne_nil _ _, ?_⟩
      rw [← List.nil_append [c], decimalValue?_concat, h]
      exact congrArg some (Nat.zero_add d)
    | concat _ h ih =>
      refine ⟨List.concat_ne_nil _ _, ?_⟩
      rw [decimalValue?_concat, ih.2, h]
      rfl
  · rintro ⟨hne, h⟩
    induction cs using List.reverseRecOn generalizing n with
    | nil => exact absurd rfl hne
    | append_singleton cs c ih =>
      rw [decimalValue?_concat] at h
      obtain ⟨m, hm, h⟩ := Option.bind_eq_some_iff.1 h
      obtain ⟨d, hd, rfl⟩ := Option.map_eq_some_iff.1 h
      by_cases hnil : cs = []
      · subst hnil
        obtain rfl : m = 0 := (Option.some.inj hm).symm
        rw [Nat.mul_zero, Nat.zero_add]
        exact .digit hd
      · exact .concat (ih hnil hm) hd

/-- Each character of a numeral is a digit. -/
theorem Numeral.exists_digit (h : Numeral cs n) (hc : c ∈ cs) : ∃ d, digitValue? c = some d := by
  induction h with
  | digit h =>
    obtain rfl := List.mem_singleton.1 hc
    exact ⟨_, h⟩
  | concat _ h ih =>
    rcases List.mem_append.1 hc with hc | hc
    · exact ih hc
    · obtain rfl := List.mem_singleton.1 hc
      exact ⟨_, h⟩

end

/-! ## Literals -/

section
variable {cs : List Char} {text : String} {n : Int}

/-- There is no white space in a literal. -/
theorem IntegerLiteral.isBlank_eq_false (h : IntegerLiteral cs n) : ∀ c ∈ cs, isBlank c = false := by
  have hnumeral : ∀ {ds : List Char} {m : Nat}, Numeral ds m → ∀ c ∈ ds, isBlank c = false := by
    intro ds m hds c hc
    obtain ⟨d, hd⟩ := hds.exists_digit hc
    exact (spec_of_digitValue? hd).1
  cases h with
  | unsigned h => exact hnumeral h
  | plus h | minus h =>
    rintro c (_ | ⟨_, hc⟩)
    · decide
    · exact hnumeral h c hc

/-- Behind a minus sign there are digits. -/
theorem integerLiteral_minus_iff : IntegerLiteral ('-' :: cs) n ↔ ∃ m, Numeral cs m ∧ -1 * (m : Int) = n := by
  constructor
  · intro h
    cases h with
    | unsigned h =>
      obtain ⟨d, hd⟩ := h.exists_digit List.mem_cons_self
      exact absurd rfl (spec_of_digitValue? hd).2.2
    | minus h => exact ⟨_, h, by omega⟩
  · rintro ⟨m, h, rfl⟩
    rw [Int.neg_one_mul]
    exact .minus h

/-- Behind a plus sign there are digits. -/
theorem integerLiteral_plus_iff : IntegerLiteral ('+' :: cs) n ↔ ∃ m, Numeral cs m ∧ 1 * (m : Int) = n := by
  constructor
  · intro h
    cases h with
    | unsigned h =>
      obtain ⟨d, hd⟩ := h.exists_digit List.mem_cons_self
      exact absurd rfl (spec_of_digitValue? hd).2.1
    | plus h => exact ⟨_, h, by omega⟩
  · rintro ⟨m, h, rfl⟩
    rw [Int.one_mul]
    exact .plus h

/-- A literal without a sign has digits only. -/
theorem integerLiteral_iff_of_ne (hminus : ∀ rest, cs = '-' :: rest → False)
    (hplus : ∀ rest, cs = '+' :: rest → False) :
    IntegerLiteral cs n ↔ ∃ m, Numeral cs m ∧ 1 * (m : Int) = n := by
  constructor
  · intro h
    cases h with
    | unsigned h => exact ⟨_, h, by omega⟩
    | plus => exact (hplus _ rfl).elim
    | minus => exact (hminus _ rfl).elim
  · rintro ⟨m, h, rfl⟩
    rw [Int.one_mul]
    exact .unsigned h

/-- Digits with a sign are read as the number that they write. -/
theorem signed_eq_some_iff {sign : Int} :
    (if cs.isEmpty then none else (decimalValue? cs).map fun n => sign * n) = some n ↔
      ∃ m, Numeral cs m ∧ sign * (m : Int) = n := by
  simp only [numeral_iff, Option.ite_none_left_eq_some, List.isEmpty_iff]
  cases decimalValue? cs <;> simp

/-- The reader of integers accepts literals, and reads their numbers. -/
theorem integerText?_eq_some_iff : integerText? text = some n ↔ IntegerLiteral (trim text.toList) n := by
  unfold integerText?
  dsimp only
  split
  · next heq => rw [signed_eq_some_iff, heq, integerLiteral_minus_iff]
  · next heq => rw [signed_eq_some_iff, heq, integerLiteral_plus_iff]
  · next hminus hplus => rw [signed_eq_some_iff, integerLiteral_iff_of_ne hminus hplus]

/-- Trimming leaves what stands between white space. -/
theorem trim_append_of_forall {front back : List Char} (hcs : ∀ c ∈ cs, isBlank c = false)
    (hfront : ∀ c ∈ front, isBlank c = true) (hback : ∀ c ∈ back, isBlank c = true) :
    trim (front ++ cs ++ back) = cs := by
  induction back using List.reverseRecOn with
  | nil =>
    rw [List.append_nil]
    induction front with
    | nil => exact trim_of_forall hcs
    | cons b front ih =>
      rw [List.cons_append, trim_cons_of_isBlank (hfront b List.mem_cons_self)]
      exact ih fun c hc => hfront c (List.mem_cons_of_mem _ hc)
  | append_singleton back b ih =>
    rw [← List.append_assoc, trim_append_of_isBlank (hback b (by simp))]
    exact ih fun c hc => hback c (List.mem_append_left _ hc)

/-- The integer value of a text is the one of 32 bits that the text writes. -/
theorem enumInteger?_eq_some_iff : enumInteger? text = some n ↔ WritesInt text n := by
  rw [enumInteger?, Option.filter_eq_some_iff, integerText?_eq_some_iff, WritesInt]
  refine and_congr ⟨fun h => ?_, ?_⟩ ?_
  · obtain ⟨front, back, htext, hfront, hback⟩ := exists_trim text.toList
    exact ⟨front, _, back, htext, hfront, hback, h⟩
  · rintro ⟨front, literal, back, htext, hfront, hback, h⟩
    rwa [htext, trim_append_of_forall h.isBlank_eq_false hfront hback]
  · rw [fitsInt, Bool.and_eq_true, decide_eq_true_iff, decide_eq_true_iff]

/-- A text writes one integer at most. -/
theorem WritesInt.unique {m : Int} (h : WritesInt text n) (hm : WritesInt text m) : n = m :=
  Option.some.inj ((enumInteger?_eq_some_iff.2 h).symm.trans (enumInteger?_eq_some_iff.2 hm))

end

end BeanGen
