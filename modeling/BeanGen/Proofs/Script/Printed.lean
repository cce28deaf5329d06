import BeanGen.Proofs.Script.Types
import BeanGen.Proofs.Text.Mention

/-!
# The text of written types and comments

Printed types consist of names, the letters of strings and a few marks, with single spaces between them
and none at the ends, so reading them as the text of a property or of an alias takes nothing away.
-/

namespace BeanGen.Written

open Script (isWord_chars isIdentifier_chars isNamePart_of_mem_chars)
open Text

/-! ## Characters -/

/-- The marks in printed types. -/
def typeMarks : List Char :=
  ['\'', '[', ']', '<', '>', ',', '|', ' ']

/-- A character of printed types. -/
def isTypePart (c : Char) : Bool :=
  Java.isNamePart c || typeMarks.contains c

section
variable {c : Char} {p : Char → Bool}

/-- What holds of the characters of names and of the marks holds of all characters of types. -/
theorem of_isTypePart (hc : isTypePart c = true)
    (hparts : ∀ n < 0x80, Java.isNamePart (Char.ofNat n) = true → p (Char.ofNat n) = true)
    (hmarks : typeMarks.all p = true) : p c = true := by
  rw [isTypePart, Bool.or_eq_true, List.contains_iff_mem] at hc
  rcases hc with hc | hc
  · exact Java.of_isNamePart hc hparts
  · exact List.all_eq_true.1 hmarks c hc

theorem Letters.isNamePart (letters : Letters) (hc : c ∈ letters.text.toList) : Java.isNamePart c = true := by
  have h := List.all_eq_true.1 letters.valid c hc
  rw [Bool.or_eq_true] at h
  rw [Java.isNamePart, Java.isNameStart]
  rcases h with h | h
  · rw [h]
    rfl
  · rw [h, Bool.or_true]

theorem Letters.isTypePart_quoted (letters : Letters) (hc : c ∈ letters.quoted) : isTypePart c = true := by
  rw [Letters.quoted, List.cons_append, List.mem_cons, List.mem_append, List.mem_singleton] at hc
  rcases hc with rfl | hc | rfl
  · rfl
  · rw [isTypePart, letters.isNamePart hc]
    rfl
  · rfl

theorem isTypePart_of_mem_chars {name : Name} (hc : c ∈ name.chars) : isTypePart c = true := by
  rw [isTypePart, isNamePart_of_mem_chars hc]
  rfl

/-- The comments taken out, only spaces are left of a gap. -/
theorem eq_space_of_mem_plain {gap : Spaced.Gap} (hc : c ∈ gap.plain.text) : c = ' ' := by
  obtain ⟨piece, hpiece, hmem⟩ := List.mem_flatMap.1 hc
  have hspace := (List.mem_filter.1 hpiece).2
  cases piece with
  | space => exact List.mem_singleton.1 hmem
  | comment _ => cases hspace

theorem isTypePart_of_mem_plain {gap : Spaced.Gap} (hc : c ∈ gap.plain.text) : isTypePart c = true :=
  eq_space_of_mem_plain hc ▸ rfl

mutual

/-- No other characters are in a type without comments. -/
theorem isTypePart_plain : ∀ type : Spaced.TypeForm, ∀ c ∈ type.plain.printed, isTypePart c = true
  | .named name, c, hc => isTypePart_of_mem_chars hc
  | .predefined word hword, c, hc => by
    have hall : ∀ word ∈ predefinedTypes, word.toList.all isTypePart = true := by decide
    exact List.all_eq_true.1 (hall word hword) c hc
  | .literal letters, c, hc => letters.isTypePart_quoted hc
  | .array item before inside, c, hc => by
    simp only [Spaced.TypeForm.plain, Spaced.TypeForm.printed, List.mem_append, List.mem_cons, List.not_mem_nil,
      or_false] at hc
    rcases hc with hc | hc | rfl | hc | rfl
    · exact isTypePart_plain item c hc
    · exact isTypePart_of_mem_plain hc
    · rfl
    · exact isTypePart_of_mem_plain hc
    · rfl
  | .applied name before inside args, c, hc => by
    simp only [Spaced.TypeForm.plain, Spaced.TypeForm.printed, List.mem_append, List.mem_cons, List.not_mem_nil,
      or_false] at hc
    rcases hc with hc | hc | rfl | hc | hc | rfl
    · exact isTypePart_of_mem_chars hc
    · exact isTypePart_of_mem_plain hc
    · rfl
    · exact isTypePart_of_mem_plain hc
    · exact isTypePart_plains args c hc
    · rfl
  | .union left before behind right, c, hc => by
    simp only [Spaced.TypeForm.plain, Spaced.TypeForm.printed, List.mem_append, List.mem_cons] at hc
    rcases hc with hc | hc | rfl | hc | hc
    · exact isTypePart_plain left c hc
    · exact isTypePart_of_mem_plain hc
    · rfl
    · exact isTypePart_of_mem_plain hc
    · exact isTypePart_plain right c hc

theorem isTypePart_plains : ∀ types : Spaced.TypeForms, ∀ c ∈ types.plain.printed, isTypePart c = true
  | .one type behind, c, hc => by
    rw [Spaced.TypeForms.plain, Spaced.TypeForms.printed, List.mem_append] at hc
    rcases hc with hc | hc
    · exact isTypePart_plain type c hc
    · exact isTypePart_of_mem_plain hc
  | .more type behind before types, c, hc => by
    simp only [Spaced.TypeForms.plain, Spaced.TypeForms.printed, List.mem_append, List.mem_cons] at hc
    rcases hc with hc | hc | rfl | hc | hc
    · exact isTypePart_plain type c hc
    · exact isTypePart_of_mem_plain hc
    · rfl
    · exact isTypePart_of_mem_plain hc
    · exact isTypePart_plains types c hc

end

mutual

theorem plain_spacedType : ∀ type : TypeForm, (Script.spacedType type).plain = Script.spacedType type
  | .named _ => rfl
  | .predefined _ _ => rfl
  | .literal _ => rfl
  | .array item => congrArg (Spaced.TypeForm.array · [] []) (plain_spacedType item)
  | .applied name args => congrArg (Spaced.TypeForm.applied name [] []) (plain_spacedTypes args)
  | .union left right =>
    congrArg₂ (Spaced.TypeForm.union · [.space] [.space] ·) (plain_spacedType left) (plain_spacedType right)

theorem plain_spacedTypes : ∀ types : TypeForms, (Script.spacedTypes types).plain = Script.spacedTypes types
  | .one type => congrArg (Spaced.TypeForms.one · []) (plain_spacedType type)
  | .more type types =>
    congrArg₂ (Spaced.TypeForms.more · [] [.space] ·) (plain_spacedType type) (plain_spacedTypes types)

end

theorem TypeForm.isTypePart (type : TypeForm) : ∀ c ∈ type.printed, isTypePart c = true := by
  rw [← Script.printed_spacedType, ← plain_spacedType]
  exact isTypePart_plain _

end

/-! ## White space -/

section
variable {c : Char} {cs k : List Char}

theorem isBlank_of_mem_chars {name : Name} (hc : c ∈ name.chars) : isBlank c = false :=
  Java.isBlank_of_isNamePart (isNamePart_of_mem_chars hc)

theorem Letters.isBlank_quoted (letters : Letters) (hc : c ∈ letters.quoted) : isBlank c = false := by
  rw [Letters.quoted, List.cons_append, List.mem_cons, List.mem_append, List.mem_singleton] at hc
  rcases hc with rfl | hc | rfl
  · rfl
  · exact Java.isBlank_of_isNamePart (letters.isNamePart hc)
  · rfl

theorem isBlank_of_mem_predefinedTypes {word : String} (hword : word ∈ predefinedTypes)
    (hc : c ∈ word.toList) : isBlank c = false := by
  have hall : ∀ word ∈ predefinedTypes, word.toList.all (!isBlank ·) = true := by decide
  simpa using List.all_eq_true.1 (hall word hword) c hc

/-- A type begins with a character that is no white space. -/
theorem TypeForm.isBlank_head? (type : TypeForm) (k : List Char) :
    ∀ c ∈ (type.printed ++ k).head?, isBlank c = false := by
  intro c hc
  obtain ⟨d, cs, hprinted, hsolid, -⟩ := Script.exists_of_beginsType (Script.beginsType_printed type)
  obtain rfl : d = c := by simpa [hprinted] using hc
  have hpart := type.isTypePart d (hprinted ▸ List.mem_cons_self)
  have hblank := of_isTypePart (p := fun c => c == ' ' || !isBlank c) hpart (by decide) (by decide)
  have hne : d ≠ ' ' := by
    rintro rfl
    exact absurd hsolid (by decide)
  simpa [hne] using hblank

/-- A type ends with a character that is no white space. -/
theorem TypeForm.isBlank_getLast? : ∀ (type : TypeForm), ∀ c ∈ type.printed.getLast?, isBlank c = false
  | .named name, c, hc => isBlank_of_mem_chars (List.mem_of_getLast? hc)
  | .predefined word hword, c, hc => isBlank_of_mem_predefinedTypes hword (List.mem_of_getLast? hc)
  | .literal letters, c, hc => letters.isBlank_quoted (List.mem_of_getLast? hc)
  | .array item, c, hc => by
    rw [TypeForm.printed, List.getLast?_append] at hc
    obtain rfl : ']' = c := by simpa using hc
    rfl
  | .applied name args, c, hc => by
    rw [TypeForm.printed, List.getLast?_append] at hc
    obtain rfl : '>' = c := by simpa using hc
    rfl
  | .union left right, c, hc => by
    rw [TypeForm.printed, List.getLast?_append_of_ne_nil] at hc
    · exact right.isBlank_getLast? c hc
    · intro hnil
      have h := Script.beginsType_printed right
      rw [hnil] at h
      cases h

theorem TypeForm.trim_printed (type : TypeForm) : trim type.printed = type.printed :=
  trim_of_ends (by simpa using type.isBlank_head? []) type.isBlank_getLast?

mutual

/-- There is no white space in a type that squeezing takes away. -/
theorem TypeForm.squeeze_append : ∀ (type : TypeForm) (k : List Char),
    squeeze (type.printed ++ k) = type.printed ++ squeeze k
  | .named name, k => squeeze_append_of_forall fun _ hc => isBlank_of_mem_chars hc
  | .predefined word hword, k => squeeze_append_of_forall fun _ hc => isBlank_of_mem_predefinedTypes hword hc
  | .literal letters, k => squeeze_append_of_forall fun _ hc => letters.isBlank_quoted hc
  | .array item, k => by
    rw [TypeForm.printed, List.append_assoc, item.squeeze_append, List.cons_append, squeeze_cons_of_not rfl,
      List.cons_append, squeeze_cons_of_not rfl, List.append_assoc]
    rfl
  | .applied name args, k => by
    rw [TypeForm.printed, List.append_assoc, List.append_assoc, List.append_assoc,
      squeeze_append_of_forall fun _ hc => isBlank_of_mem_chars hc, List.cons_append, squeeze_cons_of_not rfl,
      args.squeeze_append, List.append_assoc, List.cons_append, squeeze_cons_of_not rfl]
    rfl
  | .union left right, k => by
    rw [TypeForm.printed, List.append_assoc, List.append_assoc, left.squeeze_append]
    simp only [List.cons_append, List.nil_append, List.append_assoc]
    have hbar : ∀ c ∈ ('|' :: ' ' :: (right.printed ++ k)).head?, isBlank c = false := by
      rintro c ⟨⟩
      rfl
    rw [squeeze_space hbar, squeeze_cons_of_not rfl, squeeze_space (right.isBlank_head? k),
      right.squeeze_append]

theorem TypeForms.squeeze_append : ∀ (types : TypeForms) (k : List Char),
    squeeze (types.printed ++ k) = types.printed ++ squeeze k
  | .one type, k => type.squeeze_append k
  | .more type types, k => by
    have hhead : ∀ c ∈ (types.printed ++ k).head?, isBlank c = false := by
      cases types with
      | one type => exact type.isBlank_head? k
      | more type types =>
        rw [TypeForms.printed, List.append_assoc, List.append_assoc]
        exact type.isBlank_head? _
    rw [TypeForms.printed, List.append_assoc, List.append_assoc, type.squeeze_append]
    simp only [List.cons_append, List.nil_append, List.append_assoc]
    rw [squeeze_cons_of_not rfl, squeeze_space hhead, types.squeeze_append]

end

theorem TypeForm.collapse_printed (type : TypeForm) : collapse type.printed = type.printed := by
  have h := type.squeeze_append []
  rw [List.append_nil] at h
  rw [collapse, h, squeeze, List.append_nil, type.trim_printed]

/-! ## What types do not say -/

theorem hasInfix_import_of_forall (h : ∀ c ∈ cs, isTypePart c = true) : hasInfix "import(".toList cs = false := by
  induction cs with
  | nil => rfl
  | cons c cs ih =>
    have hrest := ih fun d hd => h d (List.mem_cons_of_mem c hd)
    have hstart : "import(".toList.isPrefixOf (c :: cs) = false := by
      rw [← Bool.not_eq_true, List.isPrefixOf_iff_prefix]
      intro hbegins
      have hbracket := h '(' (hbegins.subset (by decide))
      revert hbracket
      decide
    rw [hasInfix, hstart, hrest]
    rfl

theorem TypeForm.hasInfix_import (type : TypeForm) : hasInfix "import(".toList type.printed = false :=
  hasInfix_import_of_forall type.isTypePart

end

/-! ## What is missing -/

section
variable {c : Char} {cs k : List Char}

theorem hasGap_append (cs k : List Char) :
    Script.hasGap (cs ++ k) = (Script.hasGap cs || Script.hasGap k) := by
  rw [Script.hasGap, List.any_append]
  rfl

theorem hasGap_cons (hc : isTypePart c = true) (cs : List Char) : Script.hasGap (c :: cs) = Script.hasGap cs := by
  have hne := of_isTypePart (p := fun c => !(c == Script.gapStart || c == Script.missingName)) hc (by decide)
    (by decide)
  rw [Bool.not_eq_true'] at hne
  rw [Script.hasGap, List.any_cons, hne, Bool.false_or]
  rfl

theorem hasGap_of_forall (h : ∀ c ∈ cs, isTypePart c = true) : Script.hasGap cs = false := by
  rw [Script.hasGap, List.any_eq_false]
  intro c hc
  have hne := of_isTypePart (p := fun c => !(c == Script.gapStart || c == Script.missingName)) (h c hc) (by decide)
    (by decide)
  simpa using hne

theorem Name.hasGap_chars (name : Name) : Script.hasGap name.chars = false :=
  hasGap_of_forall fun _ hc => isTypePart_of_mem_chars hc

theorem Letters.hasGap_quoted (letters : Letters) : Script.hasGap letters.quoted = false :=
  hasGap_of_forall fun _ hc => letters.isTypePart_quoted hc

theorem hasGap_predefined {word : String} (hword : word ∈ predefinedTypes) : Script.hasGap word.toList = false :=
  (by decide : ∀ word ∈ predefinedTypes, Script.hasGap word.toList = false) word hword

mutual

/-- Nothing is missing in a type, whatever its gaps hold. -/
theorem hasGap_spaced : ∀ type : Spaced.TypeForm, Script.hasGap type.printed = false
  | .named name => name.hasGap_chars
  | .predefined _ hword => hasGap_predefined hword
  | .literal letters => letters.hasGap_quoted
  | .array item before inside => by
    rw [Spaced.TypeForm.printed, hasGap_append, hasGap_append, hasGap_cons rfl, hasGap_append, hasGap_spaced item,
      Script.hasGap_gap, Script.hasGap_gap]
    rfl
  | .applied name before inside args => by
    rw [Spaced.TypeForm.printed, hasGap_append, hasGap_append, hasGap_cons rfl, hasGap_append, hasGap_append,
      name.hasGap_chars, Script.hasGap_gap, Script.hasGap_gap, hasGap_spaceds args]
    rfl
  | .union left before behind right => by
    rw [Spaced.TypeForm.printed, hasGap_append, hasGap_append, hasGap_cons rfl, hasGap_append, hasGap_spaced left,
      Script.hasGap_gap, Script.hasGap_gap, hasGap_spaced right]
    rfl

theorem hasGap_spaceds : ∀ types : Spaced.TypeForms, Script.hasGap types.printed = false
  | .one type behind => by
    rw [Spaced.TypeForms.printed, hasGap_append, hasGap_spaced type, Script.hasGap_gap]
    rfl
  | .more type behind before types => by
    rw [Spaced.TypeForms.printed, hasGap_append, hasGap_append, hasGap_cons rfl, hasGap_append, hasGap_spaced type,
      Script.hasGap_gap, Script.hasGap_gap, hasGap_spaceds types]
    rfl

end

end

/-- A type begins with a character that is no white space. -/
theorem exists_head_spaced : ∀ type : Spaced.TypeForm, ∃ c rest, type.printed = c :: rest ∧ isBlank c = false
  | .named name => by
    obtain ⟨c, rest, hchars, -⟩ := isIdentifier_chars name
    exact ⟨c, rest, hchars, isBlank_of_mem_chars (hchars ▸ List.mem_cons_self)⟩
  | .predefined word hword => by
    have hnonempty : ∀ word ∈ predefinedTypes, word.toList ≠ [] := by decide
    obtain ⟨c, rest, hchars⟩ := List.exists_cons_of_ne_nil (hnonempty word hword)
    exact ⟨c, rest, hchars, isBlank_of_mem_predefinedTypes hword (hchars ▸ List.mem_cons_self)⟩
  | .literal _ => ⟨_, _, rfl, rfl⟩
  | .array item _ _ => by
    obtain ⟨c, rest, hprinted, hblank⟩ := exists_head_spaced item
    exact ⟨c, _, by rw [Spaced.TypeForm.printed, hprinted]; rfl, hblank⟩
  | .applied name _ _ _ => by
    obtain ⟨c, rest, hchars, -⟩ := isIdentifier_chars name
    exact ⟨c, _, by rw [Spaced.TypeForm.printed, hchars]; rfl, isBlank_of_mem_chars (hchars ▸ List.mem_cons_self)⟩
  | .union left _ _ _ => by
    obtain ⟨c, rest, hprinted, hblank⟩ := exists_head_spaced left
    exact ⟨c, _, by rw [Spaced.TypeForm.printed, hprinted]; rfl, hblank⟩

/-- A type is not taken for a constant. -/
theorem spaced_ne_const (type : Spaced.TypeForm) : type.printed ≠ "const".toList := by
  have hmark {c : Char} (hc : c ∈ type.printed) (hne : c ∉ "const".toList) : type.printed ≠ "const".toList :=
    fun heq => hne (heq ▸ hc)
  cases type with
  | named name => exact Script.chars_ne (by decide)
  | predefined word hword =>
    exact (by decide : ∀ word ∈ predefinedTypes, word.toList ≠ "const".toList) word hword
  | literal letters => exact hmark (c := '\'') List.mem_cons_self (by decide)
  | array item => exact hmark (c := ']') (by simp [Spaced.TypeForm.printed]) (by decide)
  | applied name before inside args => exact hmark (c := '>') (by simp [Spaced.TypeForm.printed]) (by decide)
  | union left before behind right => exact hmark (c := '|') (by simp [Spaced.TypeForm.printed]) (by decide)

/-! ## Names without quotation marks -/

/-- A name has no quotation marks to lose. -/
theorem Name.plainName_chars (name : Name) : Script.plainName name.chars = name.text := by
  obtain ⟨c, cs, hchars, -, hparts⟩ := isIdentifier_chars name
  have hquote : Script.quotationMarks.contains c = false := by
    have h := Java.of_isNamePart (p := fun c => !Script.quotationMarks.contains c) (hparts c List.mem_cons_self)
      (by decide)
    simpa using h
  rw [Script.plainName, hchars, unquote, hquote, Bool.and_false, Bool.false_and, if_neg (by simp), ← hchars,
    Name.chars, String.ofList_toList]

/-- A string loses its quotation marks. -/
theorem Letters.plainName_quoted (letters : Letters) : Script.plainName letters.quoted = letters.text := by
  have hmark : Script.quotationMarks.contains '\'' = true := rfl
  rw [Script.plainName, Letters.quoted, List.cons_append, unquote, hmark, List.getLast?_append]
  simp

/-! ## Comments that ask for a type -/

section
variable {c : Char} {cs k : List Char}

/-- A pragma consists of dots and the characters of names. -/
theorem Pragma.isNamePart_or_eq (pragma : Pragma) (hc : c ∈ pragma.text.toList) :
    Java.isNamePart c = true ∨ c = '.' := by
  by_cases hdot : c = '.'
  · exact .inr hdot
  obtain ⟨piece, hpiece, hmem⟩ := exists_mem_splitOn hc hdot
  have hvalid := List.all_eq_true.1 pragma.valid piece hpiece
  cases piece with
  | nil => cases hmem
  | cons d ds =>
    rw [isIdentifier, Bool.and_eq_true, List.all_eq_true] at hvalid
    rcases List.mem_cons.1 hmem with rfl | hmem
    · exact .inl (Java.isNamePart_of_isNameStart hvalid.1)
    · exact .inl (hvalid.2 c hmem)

theorem Pragma.of_mem (pragma : Pragma) {p : Char → Bool} (hc : c ∈ pragma.text.toList)
    (hparts : ∀ n < 0x80, Java.isNamePart (Char.ofNat n) = true → p (Char.ofNat n) = true)
    (hdot : p '.' = true) : p c = true := by
  rcases pragma.isNamePart_or_eq hc with hc | rfl
  · exact Java.of_isNamePart hc hparts
  · exact hdot

theorem Pragma.text_ne_nil (pragma : Pragma) : pragma.text.toList ≠ [] := by
  intro hnil
  have hvalid := pragma.valid
  rw [hnil] at hvalid
  cases hvalid

theorem Pragma.trim_text (pragma : Pragma) : trim pragma.text.toList = pragma.text.toList :=
  trim_of_forall fun c hc => by
    have h := pragma.of_mem (p := fun c => !isBlank c) hc (by decide) rfl
    simpa using h

theorem Pragma.trim_printed (pragma : Pragma) : trim pragma.printed = pragma.printed := by
  have hhead : pragma.printed.head? = some '/' := rfl
  have hlast : pragma.printed.getLast? = pragma.text.toList.getLast? :=
    List.getLast?_append_of_ne_nil _ pragma.text_ne_nil
  refine trim_of_ends (fun c hc => ?_) fun c hc => ?_
  · rw [hhead] at hc
    obtain rfl : '/' = c := by simpa using hc
    rfl
  rw [hlast] at hc
  have h := pragma.of_mem (p := fun c => !isBlank c) (List.mem_of_getLast? hc) (by decide) rfl
  simpa using h

theorem beforeInfix?_eq_none (h : '/' ∉ cs) : beforeInfix? ['/', '/'] cs = none := by
  induction cs with
  | nil => rfl
  | cons c cs ih =>
    have hne : '/' ≠ c := fun heq => h (heq ▸ List.mem_cons_self)
    rw [beforeInfix?, List.isPrefixOf_cons_cons, beq_false_of_ne hne, Bool.false_and, if_neg (by simp),
      ih fun hmem => h (List.mem_cons_of_mem c hmem)]
    rfl

theorem upToBlank_eq (h : ∀ c ∈ cs, c ≠ '<' ∧ c ≠ '>' ∧ isBlank c = false) : Script.upToBlank 0 cs = cs := by
  induction cs with
  | nil => rfl
  | cons c cs ih =>
    obtain ⟨hless, hgreater, hblank⟩ := h c List.mem_cons_self
    rw [Script.upToBlank, if_neg hless, if_neg hgreater, hblank, Bool.false_and, if_neg (by simp),
      ih fun d hd => h d (List.mem_cons_of_mem c hd)]

/-- The type that the comment asks for is its text as a whole. -/
theorem Pragma.hintType_text (pragma : Pragma) : Script.hintType pragma.text.toList = pragma.text.toList := by
  have hsemicolon : Script.dropTrailing ';' pragma.text.toList = pragma.text.toList := by
    have hne : ∀ c ∈ pragma.text.toList.reverse, ¬(c == ';') = true := fun c hc => by
      have h := pragma.of_mem (p := fun c => c != ';') (List.mem_reverse.1 hc) (by decide) rfl
      simpa using h
    rw [Script.dropTrailing]
    cases hlist : pragma.text.toList.reverse with
    | nil => exact (List.reverse_eq_nil_iff.1 hlist).symm
    | cons c cs =>
      have hc := hne c (hlist ▸ List.mem_cons_self)
      rw [List.dropWhile_cons, if_neg hc, ← hlist, List.reverse_reverse]
  rw [Script.hintType, beforeInfix?_eq_none (fun hmem => ?_), Option.getD_none, pragma.trim_text, hsemicolon,
    pragma.trim_text, upToBlank_eq]
  · intro c hc
    have h := pragma.of_mem (p := fun c => c != '<' && c != '>' && !isBlank c) hc (by decide) rfl
    simpa [and_assoc] using h
  · exact absurd (pragma.of_mem (p := fun c => c != '/') hmem (by decide) rfl) (by decide)

/-- The comment asks for its type. -/
theorem Pragma.typeHint?_printed (pragma : Pragma) :
    Script.typeHint? (String.ofList pragma.printed) = some pragma.text := by
  have htrim : trimStart pragma.text.toList = pragma.text.toList :=
    trimStart_of_head? fun c hc => by
      have h := pragma.of_mem (p := fun c => !isBlank c) (List.mem_of_mem_head? hc) (by decide) rfl
      simpa using h
  have hfind : Script.findHint? pragma.printed = some (trimStart pragma.text.toList) := rfl
  have hchars : (String.ofList pragma.printed).toList = pragma.printed := String.toList_ofList
  have hstart : "//".toList.isPrefixOf (trimStart pragma.printed) = true := rfl
  rw [Script.typeHint?, hchars, if_pos hstart, hfind, htrim, Option.map_some,
    pragma.hintType_text]
  cases hlist : pragma.text.toList with
  | nil => exact absurd hlist pragma.text_ne_nil
  | cons c cs =>
    dsimp only
    rw [← hlist, String.ofList_toList]

theorem getLast?_comment (comment : Spaced.Comment) : comment.text.getLast? = some '/' := by
  rw [Spaced.Comment.text, List.getLast?_cons_cons, List.getLast?_cons, List.getLast?_append]
  rfl

theorem trim_comment (comment : Spaced.Comment) : trim comment.text = comment.text := by
  refine trim_of_ends ?_ ?_
  · rintro c ⟨⟩
    rfl
  · rw [getLast?_comment]
    rintro c ⟨⟩
    rfl

end

end BeanGen.Written
