import BeanGen.Proofs.Script.Gaps

/-!
# Reading written types

A written type is a chain of operands with bars between them, each with its empty indices; there may be
gaps between all of its tokens. An operand is read whole when a token follows that goes on with none
(`ReadsOperand`), and so is a chain of such operands (`type?_of_chain`). Type arguments are read with one
level less of nesting, so the chain of a type is established by recursion on the type, for every depth that
its length fits in (`type?_spaced`). A written type is one whose gaps hold its spaces and nothing else
(`printed_spacedType`).
-/

namespace BeanGen.Script

open Written (Name Letters keywords predefinedTypes)
open Spaced (Gap Piece)

/-- The reader in which phrases are nested less deep than `depth`. -/
def readerWithin (steps depth : Nat) : Reader :=
  ⟨steps, readWithin steps depth⟩

/-! ## Where types begin and end -/

section
variable {reader : Reader} {follow : Follow} {text k cs : List Char}

/-- A written type can begin with this text. -/
def beginsType (cs : List Char) : Bool :=
  cs.head?.any fun c => isSolid c && !(['|', '&', '!', '>'].contains c)

/-- The next token is one of those that can follow an operand of a type. -/
def endsOperand (follow : Follow) (cs : List Char) : Bool :=
  endsWord cs && (ahead follow cs).head?.any [',', '>', ';', '\x7b', '|'].contains

/-- The next token is one of those that can follow a type. -/
def endsType (follow : Follow) (cs : List Char) : Bool :=
  endsWord cs && (ahead follow cs).head?.any [',', '>', ';', '\x7b'].contains

theorem endsOperand_of_endsType (h : endsType follow k = true) : endsOperand follow k = true := by
  simp only [endsType, endsOperand, Bool.and_eq_true, Option.any_eq_true, List.contains_iff_mem] at h ⊢
  obtain ⟨hword, c, hhead, hc⟩ := h
  exact ⟨hword, c, hhead, List.mem_append_left ['|'] hc⟩

theorem head?_ne_of_endsOperand (h : endsOperand follow k = true) {m : Char}
    (hm : m ∉ [',', '>', ';', '\x7b', '|']) : (ahead follow k).head? ≠ some m := by
  intro heq
  rw [endsOperand, heq, Bool.and_eq_true] at h
  exact hm (List.contains_iff_mem.1 h.2)

theorem head?_ne_of_endsType (h : endsType follow k = true) {m : Char}
    (hm : m ∉ [',', '>', ';', '\x7b']) : (ahead follow k).head? ≠ some m := by
  intro heq
  rw [endsType, heq, Bool.and_eq_true] at h
  exact hm (List.contains_iff_mem.1 h.2)

theorem exists_of_beginsType (h : beginsType text = true) :
    ∃ c cs, text = c :: cs ∧ isSolid c = true ∧ c ∉ ['|', '&', '!', '>'] := by
  cases text with
  | nil => cases h
  | cons c cs =>
    simp only [beginsType, List.head?_cons, Option.any_some, Bool.and_eq_true, Bool.not_eq_true',
      List.contains_eq_mem, decide_eq_false_iff_not] at h
    exact ⟨c, cs, rfl, h⟩

theorem head?_ne_of_beginsType (h : beginsType text = true) {m : Char} (hm : m ∈ ['|', '&', '!', '>']) :
    (text ++ k).head? ≠ some m := by
  obtain ⟨c, cs, rfl, -, hc⟩ := exists_of_beginsType h
  rintro heq
  obtain rfl : c = m := by simpa using heq
  exact hc hm

theorem skip_of_beginsType (h : beginsType text = true) : skip (text ++ k) = text ++ k := by
  obtain ⟨c, cs, rfl, hsolid, -⟩ := exists_of_beginsType h
  exact skip_cons hsolid

/-- A type does not begin with the mark that closes its list. -/
theorem nextMark?_of_beginsType (h : beginsType text = true) (hcs : skip cs = text ++ k) :
    nextMark? ">" cs = none := by
  rw [nextMark?, hcs, mark?_of_head? rfl (head?_ne_of_beginsType h (by decide))]

theorem beginsType_append (h : beginsType text = true) : beginsType (text ++ k) = true := by
  obtain ⟨c, cs, rfl, -⟩ := exists_of_beginsType h
  exact h

theorem beginsType_chars (name : Name) : beginsType name.chars = true := by
  obtain ⟨c, cs, hchars, -, hparts⟩ := isIdentifier_chars name
  rw [hchars]
  exact Java.of_isNamePart (p := fun c => isSolid c && !(['|', '&', '!', '>'].contains c))
    (hparts c List.mem_cons_self) (by decide)

/-! ## Operands -/

theorem atMark_of_head? {mark : String} {m : Char} (hmark : mark.toList.head? = some m)
    (h : cs.head? ≠ some m) : atMark mark cs = false := by
  rw [atMark_eq, mark?_of_head? hmark h]
  rfl

theorem operandType?_word {w : List Char} (h : word? cs = some (w, k)) :
    operandType? reader follow cs = namedType? reader follow w k := by
  unfold operandType?
  rw [h]

theorem operandType?_name {name : Name} (hk : endsWord k = true) (hdot : (ahead follow k).head? ≠ some '.') :
    operandType? reader follow (name.chars ++ k) =
      some (.primary (if atMark "<" (ahead follow k) then skipTypeArguments reader k else k)) := by
  have hword {word : String} (h : word ∈ keywords) : ¬(name.chars == word.toList) = true := by
    rw [beq_chars h]
    simp
  have htype : ¬(typeKeywords.any fun word => name.chars == word.toList) = true := by
    simp only [List.any_eq_true, not_exists, not_and]
    exact fun word h => hword ((by decide : ∀ word ∈ typeKeywords, word ∈ keywords) word h)
  rw [operandType?_word (word?_append (isWord_chars name) hk), namedType?]
  rw [if_neg (hword (by decide)), if_neg (hword (by decide)), if_neg (hword (by decide)),
    if_neg (hword (by decide)), if_neg (hword (by decide)), if_neg (hword (by decide)),
    if_neg (hword (by decide)), if_neg (hword (by decide)), if_neg htype]
  dsimp only
  rw [repeated_of_none (by rw [mark?_of_head? rfl hdot]; rfl)]

theorem operandType?_predefined {word : String} (hword : word ∈ predefinedTypes) (hk : endsWord k = true) :
    operandType? reader follow (word.toList ++ k) = some (.primary k) := by
  have hnames : ∀ word ∈ predefinedTypes, isWord word.toList = true := by decide
  rw [operandType?_word (word?_append (hnames word hword) hk)]
  simp only [predefinedTypes, List.mem_cons, List.not_mem_nil, or_false] at hword
  rcases hword with rfl | rfl | rfl | rfl | rfl | rfl | rfl | rfl | rfl | rfl | rfl | rfl | rfl | rfl <;> rfl

theorem closedString?_append {letters : List Char}
    (h : ∀ c ∈ letters, (Text.isAsciiLetter c || Text.isAsciiDigit c) = true) :
    closedString? '\'' 0 (letters ++ '\'' :: k) = some k := by
  induction letters with
  | nil => rfl
  | cons c cs ih =>
    have hc : (Java.isNamePart c) = true := by
      rw [Java.isNamePart, Java.isNameStart]
      have := h c List.mem_cons_self
      grind
    have hne := Java.of_isNamePart (p := fun c => c != '\'' && c != '\\' && c != '\n' && c != '\r') hc (by decide)
    simp only [Bool.and_eq_true, bne_iff_ne, ne_eq] at hne
    obtain ⟨⟨⟨hquote, hslash⟩, hline⟩, hreturn⟩ := hne
    rw [List.cons_append, closedString?, if_neg hquote, if_neg hslash, if_neg (not_or.2 ⟨hline, hreturn⟩)]
    exact ih fun d hd => h d (List.mem_cons_of_mem c hd)

theorem string?_quoted (letters : Letters) : string? (letters.quoted ++ k) = some k := by
  rw [Letters.quoted, List.append_assoc, List.cons_append, List.singleton_append]
  exact closedString?_append fun c hc => List.all_eq_true.1 letters.valid c hc

theorem operandType?_literal (letters : Letters) :
    operandType? reader follow (letters.quoted ++ k) = some (.primary k) := by
  have hword : word? (letters.quoted ++ k) = none := rfl
  have hnumber : number? (letters.quoted ++ k) = none := rfl
  unfold operandType?
  rw [hword, hnumber, string?_quoted]
  rfl

/-! ## Indices -/

/-- Empty indices, each with the gaps in front of it and in it. -/
def indices : List (Gap × Gap) → List Char
  | [] => []
  | (before, inside) :: more => before.text ++ '[' :: (inside.text ++ ']' :: indices more)

theorem indices_cons (before inside : Gap) (more : List (Gap × Gap)) :
    indices ((before, inside) :: more) ++ k =
      before.text ++ '[' :: (inside.text ++ ']' :: (indices more ++ k)) := by
  simp [indices]

theorem length_le_length_indices (gaps : List (Gap × Gap)) : gaps.length ≤ (indices gaps).length := by
  induction gaps with
  | nil => exact Nat.zero_le _
  | cons gap gaps ih =>
    simp only [indices, List.length_cons, List.length_append]
    omega

theorem typeIndex?_gap (before inside : Gap) :
    typeIndex? reader follow (before.text ++ '[' :: (inside.text ++ ']' :: k)) = some k := by
  have hclose : nextMark? "]" (inside.text ++ ']' :: k) = some k := by
    rw [nextMark?, skip_gap]
    rfl
  rw [typeIndex?, ahead_gap, ahead_cons (by decide)]
  exact congrArg (Option.or · _) hclose

theorem typeIndex?_of_endsOperand (h : endsOperand follow k = true) :
    typeIndex? reader follow k = none := by
  unfold typeIndex?
  split
  · next heq => exact absurd (congrArg List.head? heq) (head?_ne_of_endsOperand h (by decide))
  · rfl

theorem repeated_typeIndex? (h : endsOperand follow k = true) {gaps : List (Gap × Gap)} {steps : Nat}
    (hsteps : gaps.length ≤ steps) : repeated (typeIndex? reader follow) steps (indices gaps ++ k) = k := by
  induction gaps generalizing steps with
  | nil => exact repeated_of_none (typeIndex?_of_endsOperand h) steps
  | cons gap gaps ih =>
    obtain ⟨steps, rfl⟩ : ∃ m, steps = m + 1 := ⟨steps - 1, by simp at hsteps; omega⟩
    rw [indices_cons, repeated_of_some (typeIndex?_gap gap.1 gap.2)]
    exact ih (by simpa using hsteps)

/-- The operand is read whole, with any number of indices behind it, where the script is not longer than
the reader has steps. -/
def ReadsOperand (reader : Reader) (follow : Follow) (text : List Char) : Prop :=
  beginsType text = true ∧ ∀ (gaps : List (Gap × Gap)) (k : List Char), endsOperand follow k = true →
    (text ++ (indices gaps ++ k)).length ≤ reader.steps →
    indexedType? reader follow (text ++ (indices gaps ++ k)) = some (.primary k)

/-- An operand that is read whole in front of its indices. -/
theorem ReadsOperand.of_operandType? (hbegins : beginsType text = true)
    (h : ∀ (gaps : List (Gap × Gap)) (k : List Char), endsOperand follow k = true →
      (text ++ (indices gaps ++ k)).length ≤ reader.steps →
      operandType? reader follow (text ++ (indices gaps ++ k)) = some (.primary (indices gaps ++ k))) :
    ReadsOperand reader follow text := by
  refine ⟨hbegins, fun gaps k hk hlength => ?_⟩
  rw [indexedType?, skip_of_beginsType hbegins, h gaps k hk hlength]
  cases gaps with
  | nil =>
    simp only [Option.bind_eq_bind, Option.bind_some, Operand.primary, if_true, indices, List.nil_append,
      Reading.ending, typeIndex?_of_endsOperand hk]
    rfl
  | cons gap gaps =>
    obtain ⟨before, inside⟩ := gap
    have hsteps : gaps.length ≤ reader.steps := by
      have hgaps := length_le_length_indices ((before, inside) :: gaps)
      simp only [List.length_append, List.length_cons] at hlength hgaps
      omega
    simp only [Option.bind_eq_bind, Option.bind_some, Operand.primary, if_true, indices_cons,
      Reading.ending, typeIndex?_gap, repeated_typeIndex? hk hsteps]
    rfl

/-- An operand keeps being one with an empty index behind it. -/
theorem ReadsOperand.append_index (h : ReadsOperand reader follow text) (before inside : Gap) :
    ReadsOperand reader follow (text ++ (before.text ++ '[' :: (inside.text ++ [']']))) := by
  refine ⟨beginsType_append h.1, fun gaps k hk hlength => ?_⟩
  have hone : text ++ (before.text ++ '[' :: (inside.text ++ [']'])) ++ (indices gaps ++ k) =
      text ++ (indices ((before, inside) :: gaps) ++ k) := by
    simp [indices]
  rw [hone] at hlength ⊢
  exact h.2 ((before, inside) :: gaps) k hk hlength

/-! ## Chains of operands -/

/-- Texts of the kind with bars between them. -/
inductive IsChain (P : List Char → Prop) : List Char → Prop
  | single {text : List Char} (h : P text) : IsChain P text
  | cons {text more : List Char} (h : P text) (before behind : Gap) (hmore : IsChain P more) :
      IsChain P (text ++ (before.text ++ '|' :: (behind.text ++ more)))

theorem IsChain.union {P : List Char → Prop} {left right : List Char} (hleft : IsChain P left) (before behind : Gap)
    (hright : IsChain P right) : IsChain P (left ++ (before.text ++ '|' :: (behind.text ++ right))) := by
  induction hleft with
  | single h => exact .cons h before behind hright
  | cons h front back _ ih =>
    simp only [List.append_assoc, List.cons_append]
    exact .cons h front back ih

/-- Of a chain, the last operand takes the indices. -/
theorem IsChain.append_index (h : IsChain (ReadsOperand reader follow) text) (before inside : Gap) :
    IsChain (ReadsOperand reader follow) (text ++ (before.text ++ '[' :: (inside.text ++ [']']))) := by
  induction h with
  | single h => exact .single (h.append_index before inside)
  | cons h front back _ ih =>
    simp only [List.append_assoc, List.cons_append]
    exact .cons h front back ih

theorem IsChain.beginsType (h : IsChain (ReadsOperand reader follow) text) :
    beginsType text = true := by
  cases h with
  | single h => exact h.1
  | cons h => exact beginsType_append h.1

theorem ReadsOperand.indexedType? (h : ReadsOperand reader follow text)
    (hcs : skip cs = text ++ k) (hk : endsOperand follow k = true) (hlength : (text ++ k).length ≤ reader.steps) :
    indexedType? reader follow cs = some (.primary k) := by
  have hread : Script.indexedType? reader follow (text ++ k) = some (.primary k) := h.2 [] k hk hlength
  have hskip : skip (text ++ k) = text ++ k := skip_of_beginsType h.1
  rw [Script.indexedType?, hskip] at hread
  rw [Script.indexedType?, hcs]
  exact hread

theorem endsOperand_bar (gap : Gap) : endsOperand follow (gap.text ++ '|' :: cs) = true := by
  rw [endsOperand, endsWord_gap gap rfl, ahead_gap, ahead_cons (by decide)]
  rfl

theorem furtherType?_of_endsType (hk : endsType follow k = true) : furtherType? reader follow k = none := by
  unfold furtherType?
  split
  · next heq => exact absurd (congrArg List.head? heq) (head?_ne_of_endsType hk (by decide))
  · next heq => exact absurd (congrArg List.head? heq) (head?_ne_of_endsType hk (by decide))
  · have hword : word? (ahead follow k) = none := by
      rw [endsType, Bool.and_eq_true, Option.any_eq_true] at hk
      obtain ⟨-, c, hhead, hc⟩ := hk
      obtain ⟨rest, hrest⟩ := List.head?_eq_some_iff.1 hhead
      simp only [List.contains_iff_mem, List.mem_cons, List.not_mem_nil, or_false] at hc
      rw [hrest]
      rcases hc with rfl | rfl | rfl | rfl <;> rfl
    rw [keyword?, hword]
    rfl

/-- One more operand behind a bar. -/
theorem furtherType?_bar (hoperators : follow.operators = false) (h : ReadsOperand reader follow text)
    (before behind : Gap) (hk : endsOperand follow k = true) (hlength : (text ++ k).length ≤ reader.steps) :
    furtherType? reader follow (before.text ++ '|' :: (behind.text ++ (text ++ k))) = some k := by
  have hstart : skip (behind.text ++ (text ++ k)) = text ++ k := by
    rw [skip_gap, skip_of_beginsType h.1]
  have hlead : skipLeadingOperators reader (behind.text ++ (text ++ k)) = behind.text ++ (text ++ k) := by
    refine repeated_of_none ?_ _
    rw [nextMark?, nextMark?, hstart, mark?_of_head? rfl (head?_ne_of_beginsType h.1 (by decide)),
      mark?_of_head? rfl (head?_ne_of_beginsType h.1 (by decide))]
    rfl
  unfold furtherType?
  rw [ahead_gap, ahead_cons (by decide)]
  simp only [hoperators, Bool.false_and, Bool.false_eq_true, if_false, hlead]
  rw [h.indexedType? hstart hk hlength]
  rfl

/-- The operands of a chain are read one after the other up to its end. -/
theorem IsChain.repeated_furtherType? (h : IsChain (ReadsOperand reader follow) text)
    (hoperators : follow.operators = false) (before behind : Gap) (hk : endsType follow k = true)
    (hlength : (text ++ k).length ≤ reader.steps) :
    ∃ rest, furtherType? reader follow (before.text ++ '|' :: (behind.text ++ (text ++ k))) = some rest ∧
      ∀ steps, text.length ≤ steps → repeated (furtherType? reader follow) steps rest = k := by
  induction h generalizing before behind with
  | single h =>
    exact ⟨k, furtherType?_bar hoperators h before behind (endsOperand_of_endsType hk) hlength,
      fun steps _ => repeated_of_none (furtherType?_of_endsType hk) steps⟩
  | @cons text more h front back _ ih =>
    obtain ⟨rest, hrest, hend⟩ := ih front back
      (by simp only [List.length_append, List.length_cons] at hlength ⊢; omega)
    simp only [List.append_assoc, List.cons_append] at hlength ⊢
    refine ⟨_, furtherType?_bar hoperators h before behind (endsOperand_bar front) hlength, fun steps hsteps => ?_⟩
    simp only [List.length_append, List.length_cons] at hsteps
    obtain ⟨steps, rfl⟩ : ∃ m, steps = m + 1 := ⟨steps - 1, by omega⟩
    rw [repeated_of_some hrest]
    exact hend steps (by omega)

/-- A chain of operands is read as a type. -/
theorem type?_of_chain (h : IsChain (ReadsOperand reader follow) text) (hoperators : follow.operators = false)
    (hk : endsType follow k = true) (hlength : (text ++ k).length ≤ reader.steps)
    (hcs : skip cs = text ++ k) : type? reader follow cs = some (.ending k) := by
  have hleads : atAnyMark ["|", "&"] (skip cs) = false := by
    rw [hcs, atAnyMark, List.any_cons, List.any_cons, List.any_nil,
      atMark_of_head? rfl (head?_ne_of_beginsType h.beginsType (by decide)),
      atMark_of_head? rfl (head?_ne_of_beginsType h.beginsType (by decide))]
    rfl
  have hstop : atOperator (ahead follow k) = false := by
    rw [atOperator, atMark_of_head? rfl (head?_ne_of_endsType hk (by decide)), Bool.false_and,
      Bool.false_or, atMark_of_head? rfl (head?_ne_of_endsType hk (by decide))]
  rw [type?, hleads]
  cases h with
  | single h =>
    rw [if_neg (by simp), h.indexedType? hcs (endsOperand_of_endsType hk) hlength]
    simp only [Option.bind_eq_bind, Option.bind_some, Operand.primary, Reading.ending,
      furtherType?_of_endsType hk, Bool.false_eq_true, if_false, hstop, Bool.and_false]
    rfl
  | @cons text more h before behind hmore =>
    simp only [List.append_assoc, List.cons_append] at hlength hcs
    obtain ⟨rest, hrest, hend⟩ := hmore.repeated_furtherType? hoperators before behind hk
      (by simp only [List.length_append, List.length_cons] at hlength ⊢; omega)
    rw [if_neg (by simp), h.indexedType? hcs (endsOperand_bar before) hlength]
    have hsteps : more.length ≤ reader.steps := by
      simp only [List.length_append, List.length_cons] at hlength
      omega
    simp only [Option.bind_eq_bind, Option.bind_some, Operand.primary, Reading.ending, hrest,
      hend _ hsteps, hstop, Bool.and_false, Bool.false_eq_true, if_false]
    rfl

end

/-! ## Types with gaps -/

theorem beginsType_spaced : ∀ type : Spaced.TypeForm, beginsType type.printed = true
  | .named name => beginsType_chars name
  | .predefined word hword => by
    have hwords : ∀ word ∈ predefinedTypes, beginsType word.toList = true := by decide
    exact hwords word hword
  | .literal _ => rfl
  | .array item _ _ => by
    rw [Spaced.TypeForm.printed]
    exact beginsType_append (beginsType_spaced item)
  | .applied name _ _ _ => by
    rw [Spaced.TypeForm.printed]
    exact beginsType_append (beginsType_chars name)
  | .union left _ _ _ => by
    rw [Spaced.TypeForm.printed]
    exact beginsType_append (beginsType_spaced left)

theorem beginsType_spaceds (types : Spaced.TypeForms) : beginsType types.printed = true := by
  cases types with
  | one type => exact beginsType_append (beginsType_spaced type)
  | more type => exact beginsType_append (beginsType_spaced type)

section
variable {reader : Reader} {follow : Follow} {k cs : List Char} {steps depth : Nat}

theorem endsWord_indices (h : endsOperand follow k = true) (gaps : List (Gap × Gap)) :
    endsWord (indices gaps ++ k) = true := by
  cases gaps with
  | nil =>
    rw [endsOperand, Bool.and_eq_true] at h
    exact h.1
  | cons gap gaps =>
    rw [indices_cons]
    exact endsWord_gap gap.1 rfl

theorem head?_ahead_indices (h : endsOperand follow k = true) (gaps : List (Gap × Gap)) {m : Char}
    (hm : m ∉ [',', '>', ';', '\x7b', '|', '[']) : (ahead follow (indices gaps ++ k)).head? ≠ some m := by
  cases gaps with
  | nil => exact head?_ne_of_endsOperand h fun hmem => hm (List.mem_append_left ['['] hmem)
  | cons gap gaps =>
    rw [indices_cons, ahead_gap, ahead_cons (by decide), List.head?_cons]
    rintro heq
    obtain rfl := Option.some.inj heq
    exact hm (by decide)

/-- A mark in front of which a type can end, behind a gap. -/
theorem endsType_gap (gap : Gap) {mark : Char} (hmark : mark ∈ [',', '>', ';', '\x7b']) :
    endsType follow (gap.text ++ mark :: k) = true := by
  have hmarks : [',', '>', ';', '\x7b'].all (fun mark => isSolid mark && endsWord [mark]) = true := by decide
  obtain ⟨hsolid, hends⟩ := Bool.and_eq_true_iff.1 (List.all_eq_true.1 hmarks mark hmark)
  have hword : endsWord (gap.text ++ mark :: k) = true := endsWord_gap gap hends
  rw [endsType, ahead_gap, ahead_cons hsolid, hword]
  exact List.contains_iff_mem.2 hmark

/-- A type is read by a reader that allows for one level more of nesting. -/
theorem type?_readerWithin (h : type? (readerWithin steps depth) follow cs = some (.ending k)) :
    (readerWithin steps (depth + 1)).type? follow cs = some k := by
  have hread : (readerWithin steps (depth + 1)).read (.type follow) cs =
      type? (readerWithin steps depth) follow cs := rfl
  rw [Reader.type?, Reader.rest?, hread, h]
  rfl

theorem listedSome?_eq {item : List Char → Option (List Char)} {close : String}
    (h : nextMark? close cs = none) : listedSome? item close steps cs = listed? item false close (steps + 1) cs := by
  rw [listed?, h]
  rfl

/-- The first argument of a type does not make the bracket in front of it an aside. -/
theorem head?_gap_ne {m : Char} (gap : Gap) (hm : m ≠ ' ' ∧ m ≠ '/') (hcs : cs.head? ≠ some m) :
    (gap.text ++ cs).head? ≠ some m := by
  cases gap with
  | nil => exact hcs
  | cons piece gap =>
    rw [gap_cons]
    cases piece with
    | space => exact fun heq => hm.1 (Option.some.inj heq).symm
    | comment comment => exact fun heq => hm.2 (Option.some.inj heq).symm

end

mutual

/-- A type is a chain of operands, each of which is read whole. -/
theorem isChain_spaced {steps : Nat} : ∀ (type : Spaced.TypeForm) {depth : Nat} (follow : Follow),
    type.printed.length ≤ depth →
    IsChain (ReadsOperand (readerWithin steps depth) follow) type.printed
  | .named name, depth, follow, _ => by
    refine .single (.of_operandType? (beginsType_chars name) fun gaps k hk _ => ?_)
    have hangle : atMark "<" (ahead follow (indices gaps ++ k)) = false :=
      atMark_of_head? rfl (head?_ahead_indices hk gaps (by decide))
    exact (operandType?_name (endsWord_indices hk gaps) (head?_ahead_indices hk gaps (by decide))).trans
      (by rw [hangle]; rfl)
  | .predefined word hword, depth, follow, _ =>
    .single (.of_operandType? (beginsType_spaced _) fun gaps k hk _ =>
      operandType?_predefined hword (endsWord_indices hk gaps))
  | .literal letters, depth, follow, _ =>
    .single (.of_operandType? rfl fun gaps k hk _ => operandType?_literal letters)
  | .array item before inside, depth, follow, hdepth => by
    rw [Spaced.TypeForm.printed] at hdepth ⊢
    rw [List.length_append] at hdepth
    exact (isChain_spaced item follow (by omega)).append_index before inside
  | .applied name before inside args, depth, follow, hdepth => by
    -- only the arguments are nested: their list is read by a reader of less depth
    simp only [Spaced.TypeForm.printed, List.length_append, List.length_cons] at hdepth
    obtain ⟨depth, rfl⟩ : ∃ m, depth = m + 1 := ⟨depth - 1, by omega⟩
    refine .single (.of_operandType? (beginsType_spaced _) fun gaps k hk hlength => ?_)
    simp only [Spaced.TypeForm.printed, List.append_assoc, List.cons_append, List.nil_append] at hlength ⊢
    have hbegins := beginsType_spaceds args
    have hhead : (inside.text ++ (args.printed ++ '>' :: (indices gaps ++ k))).head? ≠ some '!' :=
      head?_gap_ne inside (by decide) (head?_ne_of_beginsType hbegins (by decide))
    have hangle : ahead follow (before.text ++ '<' :: (inside.text ++ (args.printed ++ '>' :: (indices gaps ++ k)))) =
        '<' :: (inside.text ++ (args.printed ++ '>' :: (indices gaps ++ k))) := by
      rw [ahead_gap, ahead_angle hhead]
    have hskip : skip (inside.text ++ (args.printed ++ '>' :: (indices gaps ++ k))) =
        args.printed ++ '>' :: (indices gaps ++ k) := by
      rw [skip_gap, skip_of_beginsType hbegins]
    have hargs : typeArguments? (readerWithin steps (depth + 1))
        (before.text ++ '<' :: (inside.text ++ (args.printed ++ '>' :: (indices gaps ++ k)))) =
          some (indices gaps ++ k) := by
      rw [typeArguments?, nextMark?, skip_gap, skip_angle hhead]
      refine (listedSome?_eq (nextMark?_of_beginsType hbegins hskip)).trans
        (listed?_spaced args (by omega) hskip ?_ ?_)
      · simp only [List.length_append, List.length_cons, readerWithin] at hlength ⊢
        omega
      · simp only [List.length_append, List.length_cons, readerWithin] at hlength ⊢
        omega
    rw [operandType?_name (endsWord_gap before rfl) (by rw [hangle]; simp), hangle, skipTypeArguments, hargs]
    rfl
  | .union left before behind right, depth, follow, hdepth => by
    -- a union within a union is not told apart from the longer chain that is printed
    rw [Spaced.TypeForm.printed] at hdepth ⊢
    simp only [List.length_append, List.length_cons] at hdepth
    exact (isChain_spaced left follow (by omega)).union before behind (isChain_spaced right follow (by omega))

/-- Types with commas between them are read up to the mark behind them. -/
theorem listed?_spaced {steps : Nat} : ∀ (types : Spaced.TypeForms) {depth count : Nat} {cs k : List Char},
    types.printed.length ≤ depth → skip cs = types.printed ++ '>' :: k →
    (types.printed ++ '>' :: k).length ≤ steps → types.printed.length ≤ count →
    listed? ((readerWithin steps (depth + 1)).type? .bracketed) false ">" (count + 1) cs = some k
  | .one type behind, depth, count, cs, k, hdepth, hcs, hlength, hcount => by
    have hclose : nextMark? ">" cs = none := nextMark?_of_beginsType (beginsType_spaceds _) hcs
    simp only [Spaced.TypeForms.printed, List.append_assoc, List.length_append] at hdepth hcs hlength
    have hitem : (readerWithin steps (depth + 1)).type? .bracketed cs = some (behind.text ++ '>' :: k) :=
      type?_readerWithin (type?_of_chain (isChain_spaced type .bracketed (by omega)) rfl
        (endsType_gap behind (by decide)) (by simp only [List.length_append, readerWithin]; omega) hcs)
    have hcomma : nextMark? "," (behind.text ++ '>' :: k) = none := by
      rw [nextMark?, skip_gap]
      rfl
    have hend : nextMark? ">" (behind.text ++ '>' :: k) = some k := by
      rw [nextMark?, skip_gap]
      rfl
    rw [listed?, hclose]
    simp only [Bool.false_eq_true, if_false, hitem, Option.bind_eq_bind, Option.bind_some, hcomma, hend]
  | .more type behind before types, depth, count, cs, k, hdepth, hcs, hlength, hcount => by
    have hclose : nextMark? ">" cs = none := nextMark?_of_beginsType (beginsType_spaceds _) hcs
    simp only [Spaced.TypeForms.printed, List.append_assoc, List.cons_append, List.length_append,
      List.length_cons] at hdepth hcs hlength hcount
    have hitem : (readerWithin steps (depth + 1)).type? .bracketed cs =
        some (behind.text ++ ',' :: (before.text ++ (types.printed ++ '>' :: k))) :=
      type?_readerWithin (type?_of_chain (isChain_spaced type .bracketed (by omega)) rfl
        (endsType_gap behind (by decide)) (by simp only [List.length_append, List.length_cons, readerWithin]; omega) hcs)
    have hcomma : nextMark? "," (behind.text ++ ',' :: (before.text ++ (types.printed ++ '>' :: k))) =
        some (before.text ++ (types.printed ++ '>' :: k)) := by
      rw [nextMark?, skip_gap]
      rfl
    have hskip : skip (before.text ++ (types.printed ++ '>' :: k)) = types.printed ++ '>' :: k := by
      rw [skip_gap, skip_of_beginsType (beginsType_spaceds types)]
    obtain ⟨count, rfl⟩ : ∃ m, count = m + 1 := ⟨count - 1, by omega⟩
    rw [listed?, hclose]
    simp only [Bool.false_eq_true, if_false, hitem, Option.bind_eq_bind, Option.bind_some, hcomma]
    exact listed?_spaced types (by omega) hskip (by simp only [List.length_append, List.length_cons]; omega)
      (by omega)

end

/-- A type is read whole, whatever its gaps hold. -/
theorem type?_spaced {steps depth : Nat} (type : Spaced.TypeForm) {follow : Follow} {cs k : List Char}
    (hoperators : follow.operators = false) (hk : endsType follow k = true) (hcs : skip cs = type.printed ++ k)
    (hsteps : (type.printed ++ k).length ≤ steps) (hdepth : type.printed.length ≤ depth) :
    type? (readerWithin steps depth) follow cs = some (.ending k) :=
  type?_of_chain (isChain_spaced type follow hdepth) hoperators hk hsteps hcs

/-! ## Types without comments -/

mutual

/-- A written type with its spaces for gaps. -/
def spacedType : Written.TypeForm → Spaced.TypeForm
  | .named name => .named name
  | .predefined word h => .predefined word h
  | .literal letters => .literal letters
  | .array item => .array (spacedType item) [] []
  | .applied name args => .applied name [] [] (spacedTypes args)
  | .union left right => .union (spacedType left) [.space] [.space] (spacedType right)

/-- Written types with their spaces for gaps. -/
def spacedTypes : Written.TypeForms → Spaced.TypeForms
  | .one type => .one (spacedType type) []
  | .more type types => .more (spacedType type) [] [.space] (spacedTypes types)

end

mutual

theorem printed_spacedType : ∀ type : Written.TypeForm, (spacedType type).printed = type.printed
  | .named _ => rfl
  | .predefined _ _ => rfl
  | .literal _ => rfl
  | .array item => congrArg (· ++ ['[', ']']) (printed_spacedType item)
  | .applied name args => by
    simp [spacedType, Spaced.TypeForm.printed, Written.TypeForm.printed, Gap.text, printed_spacedTypes args]
  | .union left right => by
    simp [spacedType, Spaced.TypeForm.printed, Written.TypeForm.printed, Gap.text, Piece.text,
      printed_spacedType left, printed_spacedType right]

theorem printed_spacedTypes : ∀ types : Written.TypeForms, (spacedTypes types).printed = types.printed
  | .one type => by
    simp [spacedTypes, Spaced.TypeForms.printed, Written.TypeForms.printed, Gap.text, printed_spacedType type]
  | .more type types => by
    simp [spacedTypes, Spaced.TypeForms.printed, Written.TypeForms.printed, Gap.text, Piece.text,
      printed_spacedType type, printed_spacedTypes types]

end

theorem beginsType_printed (type : Written.TypeForm) : beginsType type.printed = true :=
  printed_spacedType type ▸ beginsType_spaced (spacedType type)

end BeanGen.Script
