import BeanGen.Proofs.Java.Name

/-!
# Which texts pass the check

The check that beans go through is meant for words of ASCII letters, digits, `_` and `$` that neither begin
with a digit nor are reserved (`IsDeclarable`). These it accepts. But it reads over one line break at the end
of a text and looks up the text with its line break among the reserved words, so it accepts every word with a
line break behind it, too, be the word reserved or not. It accepts nothing else
(`isIdentifier_iff_isDeclarable_or`).
-/

namespace BeanGen.Java

open Text

/-- The characters that a name can begin with. -/
def nameStarts : List Char :=
  "ABCDEFGHIJKLMNOPQRSTUVWXYZabcdefghijklmnopqrstuvwxyz_$".toList

/-- The digits that can follow in a name. -/
def nameDigits : List Char :=
  "0123456789".toList

/-- One or more of the characters of names, with no digit in front. -/
def IsWord (cs : List Char) : Prop :=
  ∃ first rest, cs = first :: rest ∧ first ∈ nameStarts ∧ ∀ c ∈ rest, c ∈ nameStarts ∨ c ∈ nameDigits

/-- What the check is meant to accept: words that are not reserved. -/
structure IsDeclarable (name : String) : Prop where
  isWord : IsWord name.toList
  free : name ∉ keywords

/-- A word, reserved or not, with a line break behind it. -/
def IsBrokenWord (name : String) : Prop :=
  ∃ word : String, IsWord word.toList ∧ name = word ++ "\n"

/-! ## Words -/

section
variable {name : String} {c : Char} {cs : List Char}

theorem isNameStart_iff_mem : isNameStart c = true ↔ c ∈ nameStarts := by
  have hstarts : nameStarts.all isNameStart = true := by decide
  refine ⟨fun h => ?_, List.all_eq_true.1 hstarts c⟩
  have hmem := of_isNamePart (p := fun c => !isNameStart c || nameStarts.contains c)
    (isNamePart_of_isNameStart h) (by decide)
  simpa [h] using hmem

theorem isNamePart_iff_mem : isNamePart c = true ↔ c ∈ nameStarts ∨ c ∈ nameDigits := by
  have hdigits : nameDigits.all isNamePart = true := by decide
  refine ⟨fun h => ?_, fun h => ?_⟩
  · simpa using of_isNamePart (p := fun c => nameStarts.contains c || nameDigits.contains c) h
      (by decide +kernel)
  · rcases h with h | h
    · exact isNamePart_of_isNameStart (isNameStart_iff_mem.2 h)
    · exact List.all_eq_true.1 hdigits c h

/-- The character tests of the check recognize the words. -/
theorem isWord_cons_iff : IsWord (c :: cs) ↔ isNameStart c = true ∧ cs.all isNamePart = true := by
  rw [isNameStart_iff_mem, List.all_eq_true]
  simp only [isNamePart_iff_mem]
  constructor
  · rintro ⟨first, rest, heq, hfirst, hrest⟩
    obtain ⟨rfl, rfl⟩ := List.cons.inj heq
    exact ⟨hfirst, hrest⟩
  · exact fun ⟨hfirst, hrest⟩ => ⟨c, cs, rfl, hfirst, hrest⟩

theorem isNamePart_of_isWord (h : IsWord cs) (hc : c ∈ cs) : isNamePart c = true := by
  obtain ⟨first, rest, rfl, hfirst, hrest⟩ := h
  rcases List.mem_cons.1 hc with rfl | hc
  · exact isNamePart_iff_mem.2 (.inl hfirst)
  · exact isNamePart_iff_mem.2 (hrest c hc)

/-- The check accepts a word, read without a line break at the end, if the whole text is not reserved. -/
theorem isIdentifier_iff_isWord :
    isIdentifier name = true ↔ IsWord (withoutFinalBreak name.toList) ∧ name ∉ keywords := by
  rw [isIdentifier]
  split
  · next hnil =>
    rw [hnil]
    simp [IsWord]
  · next first rest hlist =>
    rw [hlist, isWord_cons_iff]
    simp

/-- No line break ends a word. -/
theorem getLast?_ne_of_isWord (h : IsWord cs) : cs.getLast? ≠ some '\n' := fun hlast => by
  have hpart := isNamePart_of_isWord h (List.mem_of_getLast? hlast)
  revert hpart
  decide

/-! ## The check -/

theorem isName_iff_isDeclarable : isName name = true ↔ IsDeclarable name := by
  have hdeclarable : IsDeclarable name ↔ IsWord name.toList ∧ name ∉ keywords :=
    ⟨fun h => ⟨h.isWord, h.free⟩, fun h => ⟨h.1, h.2⟩⟩
  rw [hdeclarable, isName]
  split
  · next hnil =>
    rw [hnil]
    simp [IsWord]
  · next first rest hlist =>
    rw [hlist, isWord_cons_iff]
    simp

theorem isDeclarable_iff :
    IsDeclarable name ↔ isIdentifier name = true ∧ name.toList.getLast? ≠ some '\n' := by
  rw [← isName_iff_isDeclarable, isName_iff]

theorem isBrokenWord_iff :
    IsBrokenWord name ↔ isIdentifier name = true ∧ name.toList.getLast? = some '\n' := by
  rw [isIdentifier_iff_isWord]
  have hbreak : "\n".toList = ['\n'] := rfl
  have hread (front : List Char) : withoutFinalBreak (front ++ ['\n']) = front := by
    rw [withoutFinalBreak, List.getLast?_concat, if_pos (by simp), List.dropLast_concat]
  constructor
  · rintro ⟨word, hword, rfl⟩
    rw [String.toList_append, hbreak, hread]
    -- a reserved word with a line break behind it is not among the reserved words
    have hkeywords : keywords.all (fun word => word.toList.getLast? != some '\n') = true := by decide
    refine ⟨⟨hword, fun hmem => ?_⟩, List.getLast?_concat⟩
    have hlast := List.all_eq_true.1 hkeywords _ hmem
    rw [String.toList_append, hbreak, List.getLast?_concat] at hlast
    cases hlast
  · rintro ⟨⟨hword, -⟩, hlast⟩
    obtain ⟨front, hfront⟩ := List.getLast?_eq_some_iff.1 hlast
    rw [hfront, hread] at hword
    refine ⟨String.ofList front, by rwa [String.toList_ofList], String.toList_inj.1 ?_⟩
    rw [hfront, String.toList_append, String.toList_ofList, hbreak]

/-- White space in a text that passes the check is the line break at its end. -/
theorem exists_isBlank_iff (h : isIdentifier name = true) :
    (∃ c ∈ name.toList, isBlank c = true) ↔ name.toList.getLast? = some '\n' := by
  refine ⟨fun ⟨c, hc, hblank⟩ => ?_, fun hlast => ⟨'\n', List.mem_of_getLast? hlast, by decide⟩⟩
  by_contra hlast
  have hpart := isNamePart_of_isWord (isDeclarable_iff.2 ⟨h, hlast⟩).isWord hc
  rw [isBlank_of_isNamePart hpart] at hblank
  cases hblank

/-- The check accepts the words that are not reserved, and each word with a line break behind it. So it is
right about a text unless this is a word with a line break behind it, and these are the only texts with white
space that it accepts. -/
theorem isIdentifier_iff_isDeclarable_or (name : String) :
    (isIdentifier name = true ↔ IsDeclarable name ∨ IsBrokenWord name) ∧
      ((isIdentifier name = true ↔ IsDeclarable name) ↔ ¬ IsBrokenWord name) ∧
      ((isIdentifier name = true ∧ ∃ c ∈ name.toList, isBlank c = true) ↔ IsBrokenWord name) := by
  have hblank : (isIdentifier name = true ∧ ∃ c ∈ name.toList, isBlank c = true) ↔
      isIdentifier name = true ∧ name.toList.getLast? = some '\n' := and_congr_right exists_isBlank_iff
  rw [hblank, isDeclarable_iff, isBrokenWord_iff]
  refine ⟨?_, ?_, Iff.rfl⟩
  · by_cases hlast : name.toList.getLast? = some '\n' <;> simp [hlast]
  · by_cases hlast : name.toList.getLast? = some '\n' <;> simp [hlast]

/-- The check accepts the reserved word `class` with a line break behind it. -/
theorem not_forall_isIdentifier_iff_isDeclarable :
    ¬ ∀ name, isIdentifier name = true ↔ IsDeclarable name := by
  intro h
  have hword : IsWord "class\n".toList := ((h "class\n").1 (by decide)).isWord
  exact getLast?_ne_of_isWord hword rfl

end

end BeanGen.Java
