import BeanGen.Java.StringLiteral
import BeanGen.Yaml.Scalar
import Mathlib.Data.List.Basic

/-!
# String literals read back

What a string literal denotes is given by the rules of the Java language (`literalUnits?`), in UTF-16 code units:
Unicode escapes are read first (`sourceUnits?`), and then the units between the quotes with their escapes
(`bodyUnits?`). The literal of a text has no Unicode escapes (`sourceUnits?_escape`), and what one character becomes
reads back as this character (`bodyUnits?_escapeChar`). Only a carriage return does not: it stands in the literal
as it is, where no line may end. So a literal denotes its text exactly when the text has no carriage return, and
otherwise it is none (`literalUnits?_stringLiteral_iff`).
-/

namespace BeanGen.Java

/-! ## Reading literals -/

/-- The UTF-16 code units of a character: one, or a pair of surrogates. -/
def units (c : Char) : List Nat :=
  if c.toNat < 0x10000 then [c.toNat]
  else [0xd800 + (c.toNat - 0x10000) / 0x400, 0xdc00 + (c.toNat - 0x10000) % 0x400]

/-- The UTF-16 code units of a text. -/
def utf16 (s : String) : List Nat :=
  s.toList.flatMap units

/-- The code units of source text. A backslash and `u` begin a Unicode escape, which is one unit, unless the
backslash is the second one of a pair. -/
def sourceUnits? : List Char → Option (List Nat)
  | [] => some []
  | '\\' :: '\\' :: rest => (sourceUnits? rest).map (['\\', '\\'].flatMap units ++ ·)
  | '\\' :: 'u' :: rest =>
    let digits := rest.dropWhile (· == 'u')
    if digits.length < 4 then none
    else do
      let unit ← Yaml.hexNumber? (digits.take 4)
      return unit :: (← sourceUnits? (digits.drop 4))
  | c :: rest => (sourceUnits? rest).map (units c ++ ·)
termination_by source => source.length
decreasing_by
  all_goals simp only [List.length_cons, List.length_drop]
  · omega
  · have hlength := (List.dropWhile_suffix (p := (· == 'u')) (l := rest)).length_le
    omega
  · omega

/-- What a backslash stands for with one unit behind it. -/
def escapes : List (Nat × Nat) :=
  [('b'.toNat, 0x08), ('t'.toNat, '\t'.toNat), ('n'.toNat, '\n'.toNat), ('f'.toNat, 0x0c),
   ('r'.toNat, '\r'.toNat), ('s'.toNat, ' '.toNat), ('"'.toNat, '"'.toNat), ('\''.toNat, '\''.toNat),
   ('\\'.toNat, '\\'.toNat)]

/-- The digits of an octal escape: three if the first is at most 3, else two, and fewer if others follow. -/
def octalDigits (text : List Nat) : List Nat :=
  let most := if text.head?.all (· ≤ '3'.toNat) then 3 else 2
  (text.take most).takeWhile fun unit => '0'.toNat ≤ unit && unit ≤ '7'.toNat

/-- What a backslash stands for with the units behind it, and how many of them belong to it. -/
def escape? (text : List Nat) : Option (Nat × Nat) :=
  match text.head?.bind (escapes.lookup ·) with
  | some unit => some (unit, 1)
  | none =>
    let digits := octalDigits text
    if digits.isEmpty then none
    else some (digits.foldl (fun n digit => 8 * n + (digit - '0'.toNat)) 0, digits.length)

/-- What the units behind an opening quote denote. A quote closes the literal, and no line ends inside. -/
def bodyUnits? : List Nat → Option (List Nat)
  | [] => none
  | unit :: rest =>
    if unit = '"'.toNat then if rest.isEmpty then some [] else none
    else if unit = '\n'.toNat ∨ unit = '\r'.toNat then none
    else if unit = '\\'.toNat then do
      let (escaped, length) ← escape? rest
      return escaped :: (← bodyUnits? (rest.drop length))
    else (bodyUnits? rest).map (unit :: ·)
termination_by text => text.length
decreasing_by
  all_goals simp only [List.length_cons, List.length_drop]
  all_goals omega

/-- What source text denotes as a string literal. -/
def literalUnits? (source : String) : Option (List Nat) := do
  match ← sourceUnits? source.toList with
  | [] => none
  | unit :: rest => if unit = '"'.toNat then bodyUnits? rest else none

/-! ## Code units -/

section
variable {c d : Char} {a b : List Nat}

/-- A character that one unit cannot hold is made of two that are no characters. -/
theorem units_of_le (h : 0x10000 ≤ c.toNat) :
    ∃ high low, units c = [high, low] ∧ 0xd800 ≤ high ∧ high < 0xdc00 ∧ 0xdc00 ≤ low ∧
      c.toNat = 0x10000 + (high - 0xd800) * 0x400 + (low - 0xdc00) := by
  have hvalid : c.toNat.isValidChar := c.valid
  unfold Nat.isValidChar at hvalid
  refine ⟨_, _, if_neg (Nat.not_lt.2 h), ?_⟩
  omega

/-- A character that one unit holds is no surrogate. -/
theorem units_of_lt (h : c.toNat < 0x10000) :
    units c = [c.toNat] ∧ (c.toNat < 0xd800 ∨ 0xe000 ≤ c.toNat) := by
  have hvalid : c.toNat.isValidChar := c.valid
  unfold Nat.isValidChar at hvalid
  exact ⟨if_pos h, by omega⟩

/-- What follows a character in code units begins where the character ends. -/
theorem units_append_inj (h : units c ++ a = units d ++ b) : c = d ∧ a = b := by
  suffices hsame : c.toNat = d.toNat ∧ a = b from ⟨Char.toNat_inj.1 hsame.1, hsame.2⟩
  rcases Nat.lt_or_ge c.toNat 0x10000 with hc | hc <;> rcases Nat.lt_or_ge d.toNat 0x10000 with hd | hd
  · rw [(units_of_lt hc).1, (units_of_lt hd).1] at h
    exact List.cons.inj h
  · obtain ⟨hunits, hrange⟩ := units_of_lt hc
    obtain ⟨high, low, hpair, hhigh, hhigh', -, -⟩ := units_of_le hd
    rw [hunits, hpair] at h
    have hhead : c.toNat = high := (List.cons.inj h).1
    omega
  · obtain ⟨hunits, hrange⟩ := units_of_lt hd
    obtain ⟨high, low, hpair, hhigh, hhigh', -, -⟩ := units_of_le hc
    rw [hunits, hpair] at h
    have hhead : high = d.toNat := (List.cons.inj h).1
    omega
  · obtain ⟨high, low, hpair, -, -, -, hvalue⟩ := units_of_le hc
    obtain ⟨high', low', hpair', -, -, -, hvalue'⟩ := units_of_le hd
    rw [hpair, hpair'] at h
    obtain ⟨rfl, htail⟩ := List.cons.inj h
    obtain ⟨rfl, rest⟩ := List.cons.inj htail
    exact ⟨hvalue.trans hvalue'.symm, rest⟩

/-- Texts differ in their code units. -/
theorem utf16_injective {s t : String} (h : utf16 s = utf16 t) : s = t := by
  suffices hlists : ∀ cs ds : List Char, cs.flatMap units = ds.flatMap units → cs = ds from
    String.toList_inj.1 (hlists _ _ h)
  have hne : ∀ c rest, units c ++ rest ≠ [] := by
    intro c rest
    unfold units
    split <;> simp
  intro cs
  induction cs with
  | nil =>
    rintro (_ | ⟨d, ds⟩) h
    · rfl
    · exact absurd h.symm (hne d _)
  | cons c cs ih =>
    rintro (_ | ⟨d, ds⟩) h
    · exact absurd h (hne c _)
    · obtain ⟨rfl, hrest⟩ := units_append_inj h
      rw [ih ds hrest]

end

/-! ## Source text without Unicode escapes -/

section
variable {c : Char} {source : List Char} {unit : Nat} {text : List Nat}

/-- A character is read as it stands when it is no backslash, or when what is behind it is neither a backslash
nor `u`. -/
theorem sourceUnits?_cons (h : c = '\\' → ∀ d ∈ source.head?, d ≠ '\\' ∧ d ≠ 'u') :
    sourceUnits? (c :: source) = (sourceUnits? source).map (units c ++ ·) := by
  rw [sourceUnits?]
  · rintro rest rfl rfl
    exact (h rfl '\\' rfl).1 rfl
  · rintro rest rfl rfl
    exact (h rfl 'u' rfl).2 rfl

/-- What a character becomes in a literal holds no Unicode escape. -/
theorem sourceUnits?_escapeChar (c : Char) (source : List Char) :
    sourceUnits? (escapeChar c ++ source) = (sourceUnits? source).map ((escapeChar c).flatMap units ++ ·) := by
  have hmark : ∀ d ∈ ['"', 'n'], sourceUnits? ('\\' :: d :: source) =
      (sourceUnits? source).map (['\\', d].flatMap units ++ ·) := by
    intro d hd
    have hplain : d ≠ '\\' ∧ d ≠ 'u' := by
      rcases List.mem_pair.1 hd with rfl | rfl
      · exact ⟨by decide, by decide⟩
      · exact ⟨by decide, by decide⟩
    have hslash : ∀ e ∈ (d :: source).head?, e ≠ '\\' ∧ e ≠ 'u' := fun e he => Option.some.inj he ▸ hplain
    rw [sourceUnits?_cons fun _ => hslash, sourceUnits?_cons fun heq => absurd heq hplain.1, Option.map_map]
    simp [Function.comp_def]
  unfold escapeChar
  split_ifs with hslash hquote hfeed
  · exact sourceUnits?.eq_2 source
  · exact hmark '"' (by decide)
  · exact hmark 'n' (by decide)
  · rw [List.singleton_append, sourceUnits?_cons fun heq => absurd heq hslash, List.flatMap_singleton]

/-- The inside of a literal holds no Unicode escape. -/
theorem sourceUnits?_escape (cs source : List Char) :
    sourceUnits? (escape cs ++ source) = (sourceUnits? source).map ((escape cs).flatMap units ++ ·) := by
  induction cs with
  | nil => simp [escape]
  | cons c cs ih =>
    rw [escape, List.flatMap_cons, ← escape, List.append_assoc, sourceUnits?_escapeChar, ih, Option.map_map]
    simp [Function.comp_def]

/-! ## The inside of a literal -/

/-- A unit without a meaning of its own stands for itself. -/
theorem bodyUnits?_cons (h : unit ∉ ['"'.toNat, '\n'.toNat, '\r'.toNat, '\\'.toNat]) :
    bodyUnits? (unit :: text) = (bodyUnits? text).map (unit :: ·) := by
  simp only [List.mem_cons, List.not_mem_nil, or_false, not_or] at h
  obtain ⟨hquote, hfeed, hreturn, hslash⟩ := h
  rw [bodyUnits?, if_neg hquote, if_neg (not_or.2 ⟨hfeed, hreturn⟩), if_neg hslash]

/-- A backslash and a unit that are one escape stand for its unit. -/
theorem bodyUnits?_escaped {escaped : Nat} (h : escapes.lookup unit = some escaped) :
    bodyUnits? ('\\'.toNat :: unit :: text) = (bodyUnits? text).map (escaped :: ·) := by
  have hescape : escape? (unit :: text) = some (escaped, 1) := by
    simp [escape?, h]
  rw [bodyUnits?, if_neg (by decide), if_neg (by decide), if_pos rfl, hescape]
  exact Option.map_eq_bind.symm

/-- A character that is written as it is, and is no carriage return, reads back as this character. -/
theorem bodyUnits?_units (h : c ∉ ['"', '\n', '\r', '\\']) :
    bodyUnits? (units c ++ text) = (bodyUnits? text).map (units c ++ ·) := by
  rcases Nat.lt_or_ge c.toNat 0x10000 with hc | hc
  · have hplain : c.toNat ∉ ['"'.toNat, '\n'.toNat, '\r'.toNat, '\\'.toNat] := by
      simpa only [List.mem_cons, List.not_mem_nil, or_false, Char.toNat_inj] using h
    rw [(units_of_lt hc).1]
    exact bodyUnits?_cons hplain
  · obtain ⟨high, low, hpair, hhigh, -, hlow, -⟩ := units_of_le hc
    have hplain : ∀ unit, 0xd800 ≤ unit → unit ∉ ['"'.toNat, '\n'.toNat, '\r'.toNat, '\\'.toNat] := by
      intro unit hunit hmem
      have hbound : ∀ special ∈ ['"'.toNat, '\n'.toNat, '\r'.toNat, '\\'.toNat], special < 0xd800 := by decide
      exact absurd (hbound unit hmem) (Nat.not_lt.2 hunit)
    rw [hpair, List.cons_append, List.singleton_append, bodyUnits?_cons (hplain high hhigh),
      bodyUnits?_cons (hplain low (by omega)), Option.map_map]
    rfl

/-- What one character becomes in a literal reads back as this character, unless it is a carriage return. -/
theorem bodyUnits?_escapeChar (c : Char) (text : List Nat) :
    bodyUnits? ((escapeChar c).flatMap units ++ text) =
      if c = '\r' then none else (bodyUnits? text).map (units c ++ ·) := by
  -- a carriage return is none of the characters that are escaped
  unfold escapeChar
  split_ifs with hslash hreturn hquote hreturn hfeed hreturn hreturn
  · cases hslash.symm.trans hreturn
  · rw [hslash]
    exact bodyUnits?_escaped rfl
  · cases hquote.symm.trans hreturn
  · rw [hquote]
    exact bodyUnits?_escaped rfl
  · cases hfeed.symm.trans hreturn
  · rw [hfeed]
    exact bodyUnits?_escaped rfl
  · have hend : bodyUnits? ('\r'.toNat :: text) = none := by
      rw [bodyUnits?, if_neg (by decide), if_pos (.inr rfl)]
    rw [hreturn]
    exact hend
  · rw [List.flatMap_singleton]
    exact bodyUnits?_units (by simp [hslash, hquote, hfeed, hreturn])

/-- The inside of a literal reads back as its text, unless this has a carriage return. -/
theorem bodyUnits?_escape (cs : List Char) :
    bodyUnits? ((escape cs).flatMap units ++ ['"'.toNat]) =
      if '\r' ∈ cs then none else some (cs.flatMap units) := by
  induction cs with
  | nil => simp [escape, bodyUnits?]
  | cons c cs ih =>
    rw [escape, List.flatMap_cons, ← escape, List.flatMap_append, List.append_assoc, bodyUnits?_escapeChar, ih]
    rcases eq_or_ne c '\r' with rfl | hc
    · rw [if_pos rfl, if_pos List.mem_cons_self]
    · rw [if_neg hc]
      by_cases hmem : '\r' ∈ cs
      · rw [if_pos hmem, if_pos (List.mem_cons_of_mem _ hmem)]
        rfl
      · rw [if_neg hmem, if_neg (List.not_mem_cons_of_ne_of_not_mem hc.symm hmem)]
        rfl

end

/-! ## Literals -/

/-- The literal of a text denotes this text, unless the text has a carriage return. -/
theorem literalUnits?_stringLiteral (s : String) :
    literalUnits? (stringLiteral s) = if '\r' ∈ s.toList then none else some (utf16 s) := by
  have hsource : sourceUnits? (stringLiteral s).toList =
      some ('"'.toNat :: ((escape s.toList).flatMap units ++ ['"'.toNat])) := by
    have hquote : ∀ source, sourceUnits? ('"' :: source) = (sourceUnits? source).map (units '"' ++ ·) :=
      fun source => sourceUnits?_cons fun heq => absurd heq (by decide)
    rw [stringLiteral, String.toList_ofList, List.cons_append, hquote, sourceUnits?_escape, hquote, sourceUnits?]
    rfl
  rw [literalUnits?, hsource, utf16, ← bodyUnits?_escape]
  rfl

example : literalUnits? (stringLiteral "\\u0041 \\\"\n") = some (utf16 "\\u0041 \\\"\n") := by cbv

/-- **When a string literal denotes its text.** Read by the rules of the language, the literal of a text denotes
this text and no other one, provided that the text has no carriage return. The literal of a text that has one is
not well formed, and it is the only kind that is not. -/
theorem literalUnits?_stringLiteral_iff (s t : String) :
    (literalUnits? (stringLiteral s) = some (utf16 t) ↔ s = t ∧ '\r' ∉ s.toList) ∧
    (literalUnits? (stringLiteral s) = none ↔ '\r' ∈ s.toList) := by
  rw [literalUnits?_stringLiteral]
  by_cases hreturn : '\r' ∈ s.toList
  · simp [hreturn]
  · rw [if_neg hreturn, Option.some_inj]
    exact ⟨⟨fun h => ⟨utf16_injective h, hreturn⟩, fun h => congrArg utf16 h.1⟩, by simp [hreturn]⟩

/-- A text that is a carriage return. -/
theorem not_forall_literalUnits?_stringLiteral :
    ¬ ∀ s : String, literalUnits? (stringLiteral s) = some (utf16 s) := by
  intro h
  have hread := h "\r"
  rw [literalUnits?_stringLiteral, if_pos (by decide)] at hread
  cases hread

end BeanGen.Java
