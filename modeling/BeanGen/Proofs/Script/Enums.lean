import BeanGen.Proofs.Script.Declarations

/-!
# Reading written enums

A constant may have a value, which is read as an expression: a number, a number behind a sign, or a
string. The expression ends at the comma behind it or at the gap in front of the comma. A gap behind the
sign belongs to the value.
-/

namespace BeanGen.Script

open Written (Name Letters)
open Spaced (Gap Value)

/-! ## Numbers -/

section
variable {c : Char} {digits k : List Char}

/-- What holds of the ASCII digits holds of all digits. -/
theorem of_isDigit {p : Char → Bool} (hc : isDigit c = true)
    (h : ∀ n < 0x80, isDigit (Char.ofNat n) = true → p (Char.ofNat n) = true) : p c = true := by
  have hpart : Java.isNamePart c = true := by
    have hdigit : Text.isAsciiDigit c = true := hc
    rw [Java.isNamePart, hdigit, Bool.or_true]
  have hboth := Java.of_isNamePart (p := fun c => !isDigit c || p c) hpart fun n hn _ => by
    cases hdigit : isDigit (Char.ofNat n) with
    | false => rfl
    | true => exact h n hn hdigit
  simpa [hc] using hboth

/-- The text begins with what can stand behind the value of a constant: a gap or a comma. -/
def endsValue (cs : List Char) : Bool :=
  cs.head?.any [' ', '/', ','].contains

theorem exists_of_endsValue (hk : endsValue k = true) : ∃ c rest, k = c :: rest ∧ (c = ' ' ∨ c = '/' ∨ c = ',') := by
  cases k with
  | nil => cases hk
  | cons c rest =>
    have hmem := List.contains_iff_mem.1 hk
    simp only [List.mem_cons, List.not_mem_nil, or_false] at hmem
    exact ⟨c, rest, rfl, hmem⟩

theorem endsValue_gap (gap : Gap) (k : List Char) : endsValue (gap.text ++ ',' :: k) = true := by
  cases gap with
  | nil => rfl
  | cons piece gap =>
    rw [gap_cons]
    cases piece <;> rfl

theorem furtherDigitsLength_digits (hdigits : ∀ c ∈ digits, isDigit c = true) (hk : endsValue k = true) :
    furtherDigitsLength isDigit (digits ++ k) = digits.length := by
  induction digits with
  | nil =>
    obtain ⟨c, rest, rfl, rfl | rfl | rfl⟩ := exists_of_endsValue hk <;> unfold furtherDigitsLength <;> rfl
  | cons c digits ih =>
    have hc := hdigits c List.mem_cons_self
    have hne := of_isDigit (p := fun c => c != '_') hc (by decide)
    rw [List.cons_append]
    unfold furtherDigitsLength
    split
    · simp_all
    · simp_all
      omega
    · simp_all

theorem digitsLength_digits (hdigits : ∀ c ∈ digits, isDigit c = true) (hk : endsValue k = true) :
    digitsLength isDigit (digits ++ k) = digits.length := by
  cases digits with
  | nil => obtain ⟨c, rest, rfl, rfl | rfl | rfl⟩ := exists_of_endsValue hk <;> rfl
  | cons c digits =>
    rw [digitsLength, if_pos (by simpa using hdigits c List.mem_cons_self), furtherDigitsLength_digits hdigits hk]

/-- Neither a fraction nor an exponent begins inside of digits or behind a value. -/
theorem fractionLength_drop (hdigits : ∀ c ∈ digits, isDigit c = true) (hk : endsValue k = true) {n : Nat}
    (hn : n ≤ digits.length) : fractionLength ((digits ++ k).drop n) = 0 := by
  rw [List.drop_append_of_le_length hn]
  have hrest : ∀ c ∈ digits.drop n, isDigit c = true := fun c hc => hdigits c (List.mem_of_mem_drop hc)
  cases hdrop : digits.drop n with
  | nil => obtain ⟨c, rest, rfl, rfl | rfl | rfl⟩ := exists_of_endsValue hk <;> rfl
  | cons c rest =>
    have hne := of_isDigit (p := fun c => c != '.' && c != 'e' && c != 'E')
      (hrest c (hdrop ▸ List.mem_cons_self)) (by decide)
    simp only [Bool.and_eq_true, bne_iff_ne, ne_eq] at hne
    obtain ⟨⟨hdot, hlower⟩, hupper⟩ := hne
    have hexponent (cs : List Char) : exponentLength (c :: cs) = 0 := by
      rw [exponentLength, if_neg (not_or.2 ⟨hlower, hupper⟩)]
    unfold fractionLength
    split
    · simp_all
    · exact hexponent _

theorem wholeLength_digits (hdigits : ∀ c ∈ digits, isDigit c = true) (hne : digits ≠ [])
    (hk : endsValue k = true) : wholeLength (digits ++ k) ≠ 0 ∧ wholeLength (digits ++ k) ≤ digits.length := by
  have hlength := List.length_pos_of_ne_nil hne
  unfold wholeLength
  split
  · next c rest heq =>
    split
    · cases digits with
      | nil => exact absurd rfl hne
      | cons d digits =>
        obtain ⟨rfl, hrest⟩ := List.cons.inj heq
        have hrest : digits ++ k = c :: rest := hrest
        rw [← hrest, digitsLength_digits (fun d hd => hdigits d (List.mem_cons_of_mem _ hd)) hk, List.length_cons]
        omega
    · omega
  · rw [digitsLength_digits hdigits hk]
    omega

/-- The length of a number, with the letter that may stand behind it. -/
def suffixedLength (cs : List Char) (length : Nat) : Nat :=
  if length ≠ 0 ∧ (cs.drop length).head? = some 'n' then length + 1 else length

/-- The length of a number in another base, whose letter stands behind a zero. -/
def inBaseLength (letters : List Char) (isDigit : Char → Bool) (cs : List Char) : Nat :=
  match cs with
  | '0' :: letter :: rest =>
    if letters.contains letter && digitsLength isDigit rest != 0 then
      suffixedLength cs (2 + digitsLength isDigit rest)
    else 0
  | _ => 0

/-- The length of a number with a fraction or an exponent. -/
def decimalLength (cs : List Char) : Nat :=
  if wholeLength cs ≠ 0 then wholeLength cs + fractionLength (cs.drop (wholeLength cs))
  else match cs with
    | '.' :: c :: _ => if isDigit c then fractionLength cs else 0
    | _ => 0

/-- The length of a number is that of its longest reading. -/
theorem numberLength_eq (cs : List Char) : numberLength cs =
    [inBaseLength ['x', 'X'] isHexDigit cs, inBaseLength ['b', 'B'] (fun c => c == '0' || c == '1') cs,
      inBaseLength ['o', 'O'] (fun c => '0' ≤ c && c ≤ '7') cs,
      suffixedLength cs (digitsLength isDigit cs), decimalLength cs].foldl max 0 := by
  rfl

/-- Digits alone are no number in another base. -/
theorem inBaseLength_digits {letters : List Char} {isDigit' : Char → Bool}
    (hdigits : ∀ c ∈ digits, isDigit c = true) (hne : digits ≠ []) (hk : endsValue k = true)
    (hletters : letters.all (fun c => !isDigit c && !endsValue [c]) = true) :
    inBaseLength letters isDigit' (digits ++ k) = 0 := by
  unfold inBaseLength
  split
  · next letter rest heq =>
    have hletter : isDigit letter = true ∨ endsValue [letter] = true := by
      cases digits with
      | nil => exact absurd rfl hne
      | cons c digits =>
        have hbehind : digits ++ k = letter :: rest := (List.cons.inj heq).2
        cases digits with
        | nil =>
          rw [List.nil_append] at hbehind
          rw [hbehind] at hk
          exact .inr hk
        | cons d digits =>
          obtain rfl : d = letter := (List.cons.inj hbehind).1
          exact .inl (hdigits d (by simp))
    have hnone : letters.contains letter = false := by
      rw [← Bool.not_eq_true, List.contains_iff_mem]
      intro hmem
      have h := List.all_eq_true.1 hletters letter hmem
      rcases hletter with hletter | hletter <;> rw [hletter] at h <;> simp at h
    rw [hnone, Bool.false_and, if_neg (by simp)]
  · rfl

/-- Digits are one number, up to a gap or a comma. -/
theorem numberLength_digits (hdigits : ∀ c ∈ digits, isDigit c = true) (hne : digits ≠ [])
    (hk : endsValue k = true) : numberLength (digits ++ k) = digits.length := by
  obtain ⟨hwhole, hle⟩ := wholeLength_digits hdigits hne hk
  have hsuffixed : suffixedLength (digits ++ k) digits.length = digits.length := by
    obtain ⟨c, rest, rfl, hc⟩ := exists_of_endsValue hk
    have hletter : c ≠ 'n' := by rcases hc with rfl | rfl | rfl <;> decide
    rw [suffixedLength, List.drop_left, if_neg (by simp [hletter])]
  have hdecimal : decimalLength (digits ++ k) ≤ digits.length := by
    unfold decimalLength
    rw [if_pos hwhole, fractionLength_drop hdigits hk hle]
    exact hle
  rw [numberLength_eq, inBaseLength_digits hdigits hne hk (by decide), inBaseLength_digits hdigits hne hk (by decide),
    inBaseLength_digits hdigits hne hk (by decide), digitsLength_digits hdigits hk, hsuffixed]
  simp [Nat.max_eq_left hdecimal]

theorem number?_digits (hdigits : ∀ c ∈ digits, isDigit c = true) (hne : digits ≠ []) (hk : endsValue k = true) :
    number? (digits ++ k) = some k := by
  rw [number?, numberLength_digits hdigits hne hk, cut?, if_neg (by simpa using hne), List.splitAt_eq,
    List.drop_left]
  rfl

theorem isDigit_of_mem_toDigits {n : Nat} {c : Char} (hc : c ∈ Nat.toDigits 10 n) : isDigit c = true :=
  Nat.isDigit_of_mem_toDigits (by decide) (by decide) hc

end

/-! ## Values -/

section
variable {reader : Reader} {digits k cs : List Char} {steps depth : Nat}

theorem operand?_digits (hdigits : ∀ c ∈ digits, isDigit c = true) (hne : digits ≠ []) (hk : endsValue k = true)
    (hcs : skip cs = digits ++ k) : operand? reader .operand true cs = some (.ending k) := by
  have hword : word? (digits ++ k) = none := by
    cases digits with
    | nil => exact absurd rfl hne
    | cons c digits =>
      rw [word?, nameLength, if_pos (by simpa using hdigits c List.mem_cons_self)]
      rfl
  unfold operand?
  dsimp only
  rw [hcs, hword, number?_digits hdigits hne hk]
  rfl

theorem skip_digits (hdigits : ∀ c ∈ digits, isDigit c = true) (hne : digits ≠ []) :
    skip (digits ++ k) = digits ++ k := by
  cases digits with
  | nil => exact absurd rfl hne
  | cons c digits => exact skip_cons (of_isDigit (hdigits c List.mem_cons_self) (by decide))

theorem head?_digits (hdigits : ∀ c ∈ digits, isDigit c = true) (hne : digits ≠ []) :
    (digits ++ k).head? ≠ some '-' := by
  cases digits with
  | nil => exact absurd rfl hne
  | cons c digits =>
    rintro heq
    obtain rfl : c = '-' := by simpa using heq
    exact absurd (hdigits '-' List.mem_cons_self) (by decide)

/-- One sign does not begin the operator that consists of two. -/
theorem mark?_minus (h : cs.head? ≠ some '-') : mark? "--" ('-' :: cs) = none := by
  have hlist : "--".toList = ['-', '-'] := rfl
  have hsingle : ['-'].isPrefixOf cs = false := by
    cases cs with
    | nil => rfl
    | cons c cs =>
      have hne : '-' ≠ c := fun heq => h (by rw [heq]; rfl)
      rw [List.isPrefixOf_cons_cons, beq_false_of_ne hne, Bool.false_and]
  rw [mark?, hlist, List.isPrefixOf_cons_cons, hsingle, Bool.and_false, if_neg (by simp)]

/-- A sign and the gap behind it are part of the number. -/
theorem operand?_negative (sign : Gap) (hdigits : ∀ c ∈ digits, isDigit c = true) (hne : digits ≠ [])
    (hk : endsValue k = true) (hcs : skip cs = '-' :: (sign.text ++ (digits ++ k))) :
    operand? (readerWithin steps (depth + 1)) .operand true cs = some (.ending k) := by
  have hdigitsRead : operand? (readerWithin steps depth) .operand true (sign.text ++ (digits ++ k)) =
      some (.ending k) :=
    operand?_digits hdigits hne hk (by rw [skip_gap, skip_digits hdigits hne])
  have hinner : (readerWithin steps (depth + 1)).read (.operand .operand true) (sign.text ++ (digits ++ k)) =
      some (.ending k) := hdigitsRead
  have hword : word? ('-' :: (sign.text ++ (digits ++ k))) = none := rfl
  have hliteral : ((number? ('-' :: (sign.text ++ (digits ++ k)))).or
      (string? ('-' :: (sign.text ++ (digits ++ k))))).or (regex? ('-' :: (sign.text ++ (digits ++ k)))) = none := rfl
  have hdouble : (mark? "++" ('-' :: (sign.text ++ (digits ++ k)))).or
      (mark? "--" ('-' :: (sign.text ++ (digits ++ k)))) = none := by
    rw [mark?_minus (head?_gap_ne sign (by decide) (head?_digits hdigits hne))]
    rfl
  unfold operand?
  dsimp only
  rw [hcs, hword, hliteral, hdouble]
  exact hinner

theorem operand?_quoted (letters : Letters) (hcs : skip cs = letters.quoted ++ k) :
    operand? reader .operand true cs = some (.ending k) := by
  have hword : word? (letters.quoted ++ k) = none := rfl
  have hnumber : number? (letters.quoted ++ k) = none := rfl
  unfold operand?
  dsimp only
  rw [hcs, hword, hnumber, string?_quoted]
  rfl

/-- A value is read up to its last token. -/
theorem operand?_value (value : Value) (hk : endsValue k = true) (hcs : skip cs = value.printed ++ k) :
    operand? (readerWithin steps (depth + 1)) .operand true cs = some (.ending k) := by
  cases value with
  | natural n => exact operand?_digits (fun _ => isDigit_of_mem_toDigits) Nat.toDigits_ne_nil hk hcs
  | negative sign n =>
    rw [Value.printed, List.cons_append, List.append_assoc] at hcs
    exact operand?_negative sign (fun _ => isDigit_of_mem_toDigits) Nat.toDigits_ne_nil hk hcs
  | text letters => exact operand?_quoted letters hcs

theorem expression?_value (value : Value) (back : Gap) (hcs : skip cs = value.printed ++ (back.text ++ ',' :: k)) :
    (readerWithin steps (depth + 2)).expression? .operand cs = some (back.text ++ ',' :: k) := by
  have hread : (readerWithin steps (depth + 2)).read (.expression .operand true) cs =
      (expression? (readerWithin steps (depth + 1)) .operand true cs).map .ending := rfl
  have hhere : ahead .operand (back.text ++ ',' :: k) = ',' :: k := by
    rw [ahead_gap, ahead_cons (by decide)]
  have hfurther : further? (readerWithin steps (depth + 1)) .operand true (.ending (back.text ++ ',' :: k)) = none := by
    rw [further?, Reading.ending, hhere]
    rfl
  have hcompleted (n : Nat) : completed (readerWithin steps (depth + 1)) .operand true (fun _ => false) n
      (.ending (back.text ++ ',' :: k)) = .ending (back.text ++ ',' :: k) := by
    cases n with
    | zero => rfl
    | succ n =>
      rw [completed, hfurther]
      rfl
  rw [Reader.expression?, Reader.rest?, hread, expression?, operand?_value value (endsValue_gap back k) hcs]
  simp only [Option.bind_eq_bind, Option.bind_some, hcompleted]
  rfl

/-- A value is the text as written, unless it is one string. -/
theorem enumValue_eq {start rest : List Char} (h : start.head? ≠ some '\x60') :
    enumValue reader start rest =
      match string? start with
      | some behind => if behind.length = rest.length then plainName (textBefore rest start)
          else String.ofList (Text.trim (textBefore rest start))
      | none => String.ofList (Text.trim (textBefore rest start)) := by
  unfold enumValue
  split
  · exact absurd rfl h
  · rfl

theorem string?_of_head? {start : List Char} (h : ∀ c ∈ start.head?, c ≠ '"' ∧ c ≠ '\'') :
    string? start = none := by
  unfold string?
  split
  · exact absurd rfl (h _ rfl).1
  · exact absurd rfl (h _ rfl).2
  · rfl

theorem trim_value (value : Value) : Text.trim value.printed = value.printed := by
  have hblank {n : Nat} {c : Char} (hc : c ∈ Nat.toDigits 10 n) : Text.isBlank c = false := by
    simpa using of_isDigit (p := fun c => !Text.isBlank c) (isDigit_of_mem_toDigits hc) (by decide)
  cases value with
  | natural n => exact Text.trim_of_forall fun c hc => hblank hc
  | negative sign n =>
    have hlast : (Value.negative sign n).printed.getLast? = (Nat.toDigits 10 n).getLast? := by
      rw [Value.printed, ← List.cons_append, List.getLast?_append_of_ne_nil _ Nat.toDigits_ne_nil]
    refine Text.trim_of_ends ?_ fun c hc => ?_
    · rintro c ⟨⟩
      rfl
    · exact hblank (List.mem_of_getLast? (hlast ▸ hc))
  | text letters => exact Text.trim_of_forall fun c hc => letters.isBlank_quoted hc

/-- A number begins with a digit or its sign. -/
theorem head?_value {n : Nat} {sign : Gap} {value : Value} (h : value = .natural n ∨ value = .negative sign n) :
    ∀ c ∈ (value.printed ++ k).head?, c ≠ '"' ∧ c ≠ '\'' ∧ c ≠ '\x60' := by
  intro c hc
  rcases h with rfl | rfl
  · obtain ⟨d, digits, hdigits⟩ := List.exists_cons_of_ne_nil (Nat.toDigits_ne_nil (b := 10) (n := n))
    rw [Value.printed, hdigits] at hc
    obtain rfl : d = c := by simpa using hc
    have hdigit : isDigit d = true := isDigit_of_mem_toDigits (hdigits ▸ List.mem_cons_self)
    have h := of_isDigit (p := fun c => c != '"' && c != '\'' && c != '\x60') hdigit (by decide)
    simpa [and_assoc] using h
  · obtain rfl : '-' = c := by simpa [Value.printed] using hc
    decide

/-- Only the quotation marks of a value are taken away. -/
theorem enumValue_printed (value : Value) (k : List Char) : enumValue reader (value.printed ++ k) k = value.source := by
  have hnumber {n : Nat} (sign : Gap) (h : value = .natural n ∨ value = .negative sign n) :
      enumValue reader (value.printed ++ k) k = String.ofList value.printed := by
    have hhead := head?_value (k := k) h
    rw [enumValue_eq fun heq => (hhead _ heq).2.2 rfl,
      string?_of_head? fun c hc => ⟨(hhead c hc).1, (hhead c hc).2.1⟩, textBefore_append, trim_value]
  cases value with
  | natural n => exact hnumber [] (.inl rfl)
  | negative sign n => exact hnumber sign (.inr rfl)
  | text letters =>
    rw [Value.printed, enumValue_eq (by simp [Letters.quoted]), string?_quoted, textBefore_append,
      letters.plainName_quoted]
    simp [Value.source]

theorem Value.hasGap_printed (value : Value) : hasGap value.printed = false := by
  have hdigits (n : Nat) : hasGap (Nat.toDigits 10 n) = false := by
    rw [hasGap, List.any_eq_false]
    intro c hc
    simpa using of_isDigit (p := fun c => !(c == gapStart || c == missingName)) (isDigit_of_mem_toDigits hc) (by decide)
  cases value with
  | natural n => exact hdigits n
  | negative sign n =>
    have hsign : hasGap ['-'] = false := rfl
    rw [Value.printed, ← List.singleton_append, Written.hasGap_append, Written.hasGap_append, hsign, hasGap_gap,
      hdigits]
    rfl
  | text letters => exact letters.hasGap_quoted

theorem skip_value (value : Value) (k : List Char) : skip (value.printed ++ k) = value.printed ++ k := by
  cases value with
  | natural n => exact skip_digits (fun _ => isDigit_of_mem_toDigits) Nat.toDigits_ne_nil
  | negative sign n =>
    rw [Value.printed, List.cons_append, List.append_assoc]
    exact skip_minus (head?_gap_ne sign (by decide)
      (head?_digits (fun _ => isDigit_of_mem_toDigits) Nat.toDigits_ne_nil))
  | text letters => exact skip_cons (by decide)

end

/-! ## Constants -/

section
variable {reader : Reader} {k cs : List Char} {steps depth : Nat}

/-- The text of a constant behind its name, up to its comma. -/
def behindConstant (constant : Spaced.Constant) (k : List Char) : List Char :=
  constant.valueText ++ (constant.back.text ++ ',' :: k)

theorem constant_append (constant : Spaced.Constant) (k : List Char) : constant.printed ++ k =
    constant.indent.text ++ (constant.name.chars ++
      behindConstant constant (constant.behind.text ++ '\n' :: k)) := by
  simp [Spaced.Constant.printed, behindConstant]

theorem skip_constant (constant : Spaced.Constant) (k : List Char) : skip (constant.printed ++ k) =
    constant.name.chars ++ behindConstant constant (constant.behind.text ++ '\n' :: k) := by
  rw [constant_append, skip_name]

theorem endsWord_behindConstant (constant : Spaced.Constant) (k : List Char) :
    endsWord (behindConstant constant k) = true := by
  rw [behindConstant, Spaced.Constant.valueText]
  cases constant.value with
  | none => exact endsWord_gap constant.back rfl
  | some value =>
    dsimp only
    rw [List.append_assoc]
    exact endsWord_gap value.1 rfl

theorem enumMember?_spaced (constant : Spaced.Constant)
    (hcs : skip cs = constant.name.chars ++ behindConstant constant k) :
    enumMember? (readerWithin steps (depth + 2)) cs = some (some constant.source, constant.back.text ++ ',' :: k) := by
  have hends := endsWord_behindConstant constant k
  have hname : memberName? (readerWithin steps (depth + 2)) (skip cs) =
      some (some constant.name.chars, behindConstant constant k) := by
    rw [hcs]
    exact memberName?_of_skip (skip_append (isWord_chars constant.name)) hends
  have hword : (word? (skip cs)).isSome = true := by
    rw [hcs, word?_append (isWord_chars constant.name) hends]
    rfl
  rw [enumMember?, hname]
  cases hvalue : constant.value with
  | none =>
    have hequals : nextMark? "=" (constant.back.text ++ ',' :: k) = none := by
      rw [nextMark?, skip_gap]
      rfl
    simp only [behindConstant, Spaced.Constant.valueText, hvalue, List.nil_append, Option.bind_eq_bind,
      Option.bind_some, hequals, hword, Bool.true_or, if_true, Option.map_some, constant.name.plainName_chars, Spaced.Constant.source,
      Option.map_none]
    rfl
  | some found =>
    obtain ⟨before, behind, value⟩ := found
    have hequals (cs : List Char) : nextMark? "=" (before.text ++ '=' :: cs) = some cs := by
      rw [nextMark?, skip_gap]
      rfl
    have hskip : skip (behind.text ++ (value.printed ++ (constant.back.text ++ ',' :: k))) =
        value.printed ++ (constant.back.text ++ ',' :: k) := by
      rw [skip_gap, skip_value]
    simp only [behindConstant, Spaced.Constant.valueText, hvalue, List.append_assoc, List.cons_append,
      Option.bind_eq_bind, Option.bind_some, hequals, expression?_value value constant.back hskip, Option.getD_some,
      constant.name.plainName_chars, hskip, enumValue_printed, Spaced.Constant.source, Option.map_some]
    rfl

/-- Nothing is missing in a constant. -/
theorem whole?_constant {α : Type} (constant : Spaced.Constant) (item : Option α)
    (hcs : skip cs = constant.name.chars ++ behindConstant constant k) :
    whole? item (constant.back.text ++ ',' :: k) cs = item := by
  have hvalue : hasGap constant.valueText = false := by
    rw [Spaced.Constant.valueText]
    cases constant.value with
    | none => rfl
    | some value =>
      have hequals : hasGap ['='] = false := rfl
      dsimp only
      rw [← List.singleton_append, Written.hasGap_append, Written.hasGap_append, Written.hasGap_append, hasGap_gap,
        hequals, hasGap_gap, Value.hasGap_printed]
      rfl
  have htext : textBefore (constant.back.text ++ ',' :: k) (skip cs) = constant.name.chars ++ constant.valueText := by
    rw [hcs, behindConstant, ← List.append_assoc, textBefore_append]
  rw [whole?, htext, Written.hasGap_append, constant.name.hasGap_chars, hvalue]
  rfl

/-- The constants are read up to the closing brace. -/
theorem enumMembers?_spaced {constants : List Spaced.Constant} {earlier : List Source.EnumMember} {count : Nat} (close : Gap)
    (hcs : skip cs = skip (constants.flatMap Spaced.Constant.printed ++ (close.text ++ '\x7d' :: k)))
    (hcount : constants.length ≤ count) :
    enumMembers? (readerWithin steps (depth + 2)) (count + 1) earlier cs =
      some (earlier.reverse ++ constants.map Spaced.Constant.source, k) := by
  induction constants generalizing earlier count cs with
  | nil =>
    have hclose : mark? "\x7d" (skip ('\x7d' :: k)) = some k := rfl
    rw [enumMembers?, nextMark?, hcs, List.flatMap_nil, List.nil_append, skip_gap, hclose]
    simp
  | cons constant constants ih =>
    rw [List.flatMap_cons, List.append_assoc, skip_constant] at hcs
    have hcomma (cs : List Char) : nextMark? "," (constant.back.text ++ ',' :: cs) = some cs := by
      rw [nextMark?, skip_gap]
      rfl
    have hline (cs : List Char) : skip (constant.behind.text ++ '\n' :: cs) = skip cs := skip_gap _ _
    obtain ⟨count, rfl⟩ : ∃ m, count = m + 1 := ⟨count - 1, by simp at hcount; omega⟩
    rw [enumMembers?, nextMark?_of_skip hcs rfl, enumMember?_spaced constant hcs]
    simp only [Option.bind_eq_bind, Option.bind_some, whole?_constant constant _ hcs, hcomma]
    rw [ih (hline _) (by simpa using hcount)]
    simp

theorem constant_ne_nil (constant : Spaced.Constant) : constant.printed ≠ [] := by
  simp [Spaced.Constant.printed]

/-- An enum is read behind its keyword. -/
theorem enum?_spaced (decl : Spaced.Enum) (hcs : skip cs = decl.printed ++ k)
    (hsteps : (decl.printed ++ k).length < steps) :
    enum? (readerWithin steps (depth + 2)) cs = some (.ofEnum decl.source, decl.braces.tail.text ++ '\n' :: k) := by
  have hbrace : nextMark? "\x7b" (decl.braces.printed (decl.constants.flatMap Spaced.Constant.printed) ++ k) =
      some (decl.braces.first.text ++ '\n' :: (decl.constants.flatMap Spaced.Constant.printed ++
        (decl.braces.close.text ++ '\x7d' :: (decl.braces.tail.text ++ '\n' :: k)))) := by
    rw [braces_append, nextMark?, skip_gap]
    rfl
  have hmembers : enumMembers? (readerWithin steps (depth + 2)) steps []
      (decl.braces.first.text ++ '\n' :: (decl.constants.flatMap Spaced.Constant.printed ++
        (decl.braces.close.text ++ '\x7d' :: (decl.braces.tail.text ++ '\n' :: k)))) =
        some (decl.constants.map Spaced.Constant.source, decl.braces.tail.text ++ '\n' :: k) := by
    have hcount := length_le_length_flatMap (f := Spaced.Constant.printed) constant_ne_nil decl.constants
    have hlines := congrArg List.length (braces_append decl.braces (decl.constants.flatMap Spaced.Constant.printed) k)
    simp only [Spaced.Enum.printed, List.append_assoc, List.length_append, List.length_cons] at hsteps hlines
    obtain ⟨count, rfl⟩ : ∃ m, steps = m + 1 := ⟨steps - 1, by omega⟩
    exact enumMembers?_spaced decl.braces.close (skip_gap _ _) (by omega)
  have hends : endsWord (decl.braces.printed (decl.constants.flatMap Spaced.Constant.printed) ++ k) = true :=
    (atToken_braces [] decl.braces _ k).endsWord
  have hreader : (readerWithin steps (depth + 2)).steps = steps := rfl
  rw [Spaced.Enum.printed, List.append_assoc] at hcs
  rw [enum?, nextWord?_of_skip hcs hends]
  simp only [Option.bind_eq_bind, Option.bind_some, hbrace, hreader, hmembers, Name.chars, String.ofList_toList]
  rfl

end

end BeanGen.Script
