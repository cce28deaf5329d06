import BeanGen.Java.Name
import BeanGen.Proofs.Text.Blank
import BeanGen.Proofs.Text.Slice
import BeanGen.TypeText.Outline
import Mathlib.Data.List.Basic

/-!
# Names of the Java language

`isName` is the name that the Java language accepts, as far as it is written in ASCII. The check that
beans go through, `isIdentifier`, is wider in one respect: it passes over one line break at the end of
a text (`isName_iff`). A qualified name is a sequence of names with dots between them
(`isDottedName`). To the reader of type expressions a qualified name has no structure
(`outline_of_isDottedName`), and its simple name is the last of its names
(`simpleName_of_isDottedName`).
-/

namespace BeanGen.Java

open Text

/-- A name: an ASCII letter, `_` or `$`, then such characters and ASCII digits, and not reserved. -/
def isName (name : String) : Bool :=
  match name.toList with
  | [] => false
  | c :: cs => isNameStart c && cs.all isNamePart && !keywords.contains name

/-- Names with dots between them. -/
def isDottedName (name : String) : Bool :=
  (splitOn '.' name.toList).all fun piece => isName (String.ofList piece)

/-! ## Characters of names -/

section
variable {name : String} {c : Char}

/-- Every character that may begin a name may follow in it. -/
theorem isNamePart_of_isNameStart (h : isNameStart c = true) : isNamePart c = true := by
  rw [isNamePart, h, Bool.true_or]

/-- What holds of the ASCII characters of names holds of all of them. -/
theorem of_isNamePart {p : Char → Bool} (h : isNamePart c = true)
    (hparts : ∀ n < 0x80, isNamePart (Char.ofNat n) = true → p (Char.ofNat n) = true) : p c = true := by
  have hbound : c.toNat < 0x80 := by
    simp only [isNamePart, isNameStart, isAsciiLetter, isAsciiDigit, Bool.or_eq_true, Bool.and_eq_true,
      decide_eq_true_eq, beq_iff_eq, Char.le_def, UInt32.le_iff_toNat_le] at h
    rcases h with (((h | h) | rfl) | rfl) | h
    · exact Nat.lt_of_le_of_lt h.2 (by decide)
    · exact Nat.lt_of_le_of_lt h.2 (by decide)
    · decide
    · decide
    · exact Nat.lt_of_le_of_lt h.2 (by decide)
  rw [← Char.ofNat_toNat c] at h ⊢
  exact hparts c.toNat hbound h

/-- No character of a name is white space. -/
theorem isBlank_of_isNamePart (h : isNamePart c = true) : isBlank c = false := by
  simpa using of_isNamePart (p := (!isBlank ·)) h (by decide)

/-- A name is a first character and others. -/
theorem exists_of_isName (h : isName name = true) :
    ∃ c cs, name.toList = c :: cs ∧ isNameStart c = true ∧ (∀ d ∈ cs, isNamePart d = true) ∧
      name ∉ keywords := by
  unfold isName at h
  split at h
  · cases h
  · next c cs hlist =>
    simp only [Bool.and_eq_true, List.all_eq_true, Bool.not_eq_true', List.contains_eq_mem,
      decide_eq_false_iff_not] at h
    exact ⟨c, cs, hlist, h.1.1, h.1.2, h.2⟩

/-- A name consists of the characters of names. -/
theorem isNamePart_of_isName (h : isName name = true) (hc : c ∈ name.toList) :
    isNamePart c = true := by
  obtain ⟨first, rest, hlist, hfirst, hrest, -⟩ := exists_of_isName h
  rw [hlist] at hc
  rcases List.mem_cons.1 hc with rfl | hc
  · exact isNamePart_of_isNameStart hfirst
  · exact hrest c hc

/-- Other characters do not occur in a name. -/
theorem notMem_of_isName (h : isName name = true) (hc : isNamePart c = false) : c ∉ name.toList :=
  fun hmem => by rw [isNamePart_of_isName h hmem] at hc; cases hc

/-! ## The check that beans go through -/

/-- A name is a text that passes the check and does not end with a line break. -/
theorem isName_iff :
    isName name = true ↔ isIdentifier name = true ∧ name.toList.getLast? ≠ some '\n' := by
  by_cases hbreak : name.toList.getLast? = some '\n'
  · refine iff_of_false (fun h => ?_) fun h => h.2 hbreak
    exact notMem_of_isName h (by decide) (List.mem_of_getLast? hbreak)
  · have hwhole : withoutFinalBreak name.toList = name.toList := by
      rw [withoutFinalBreak, if_neg (by simpa using hbreak)]
    rw [isIdentifier, hwhole, isName]
    exact (and_iff_left hbreak).symm

/-- A name passes the check. -/
theorem isIdentifier_of_isName (h : isName name = true) : isIdentifier name = true :=
  (isName_iff.1 h).1

/-- The characters of a text that passes the check are those of names, but for a final line break. -/
theorem isNamePart_or_eq_of_isIdentifier (h : isIdentifier name = true) (hc : c ∈ name.toList) :
    isNamePart c = true ∨ c = '\n' := by
  unfold isIdentifier at h
  by_cases hbreak : c = '\n'
  · exact .inr hbreak
  have hmem : c ∈ withoutFinalBreak name.toList := by
    unfold withoutFinalBreak
    split
    · next hlast =>
      refine List.mem_dropLast_of_mem_of_ne_getLast? hc ?_
      rw [eq_of_beq hlast]
      exact fun heq => hbreak (Option.some.inj heq)
    · exact hc
  split at h
  · next hnil =>
    rw [hnil] at hmem
    cases hmem
  · next first rest hlist =>
    simp only [Bool.and_eq_true, List.all_eq_true] at h
    rw [hlist] at hmem
    rcases List.mem_cons.1 hmem with rfl | hmem
    · exact .inl (isNamePart_of_isNameStart h.1.1)
    · exact .inl (h.1.2 c hmem)

end

/-- The upper case of a character that may begin a name is part of a name. -/
theorem isNamePart_of_mem_upperCase {c d : Char} (h : isNameStart c = true) (hd : d ∈ upperCase c) :
    isNamePart d = true := by
  have hascii := of_isNamePart (p := fun c => decide (c.toNat < 0x80) && isNamePart c.toUpper)
    (isNamePart_of_isNameStart h) (by decide)
  rw [Bool.and_eq_true, decide_eq_true_eq] at hascii
  rw [upperCase, if_pos hascii.1, List.mem_singleton] at hd
  rw [hd]
  exact hascii.2

/-- A text that passes the check consists of the characters of names when it is capitalized, too, but for
a final line break. -/
theorem isNamePart_or_eq_of_capitalized {name : String} {c : Char} (h : isIdentifier name = true)
    (hc : c ∈ (capitalized name).toList) : isNamePart c = true ∨ c = '\n' := by
  rw [capitalized, String.toList_ofList] at hc
  cases hlist : name.toList with
  | nil =>
    rw [hlist] at hc
    cases hc
  | cons first rest =>
    rw [hlist, capitalize] at hc
    have hfirst : isNameStart first = true := by
      have hprefix : withoutFinalBreak name.toList <+: name.toList := by
        unfold withoutFinalBreak
        split
        · exact List.dropLast_prefix _
        · exact List.prefix_rfl
      unfold isIdentifier at h
      split at h
      · cases h
      · next start others hread =>
        rw [hread, hlist] at hprefix
        rw [(List.cons_prefix_cons.1 hprefix).1] at h
        simp only [Bool.and_eq_true] at h
        exact h.1.1
    rcases List.mem_append.1 hc with hupper | hrest
    · exact .inl (isNamePart_of_mem_upperCase hfirst hupper)
    · exact isNamePart_or_eq_of_isIdentifier h (by rw [hlist]; exact List.mem_cons_of_mem _ hrest)

/-! ## Qualified names -/

section
variable {name : String} {c : Char}

/-- Each piece of a qualified name is a name. -/
theorem isName_of_mem_splitOn (h : isDottedName name = true) {piece : List Char}
    (hpiece : piece ∈ splitOn '.' name.toList) : isName (String.ofList piece) = true :=
  List.all_eq_true.1 h piece hpiece

/-- A name is a qualified name of one piece. -/
theorem isDottedName_of_isName (h : isName name = true) : isDottedName name = true := by
  rw [isDottedName, splitOn_of_notMem (notMem_of_isName h (by decide)), List.all_cons, List.all_nil,
    String.ofList_toList, h]
  rfl

/-- A qualified name consists of dots and the characters of names. -/
theorem isNamePart_of_isDottedName (h : isDottedName name = true) (hc : c ∈ name.toList)
    (hdot : c ≠ '.') : isNamePart c = true := by
  obtain ⟨piece, hpiece, hmem⟩ := exists_mem_splitOn hc hdot
  exact isNamePart_of_isName (isName_of_mem_splitOn h hpiece) (by simpa using hmem)

/-- A qualified name is not empty. -/
theorem ne_empty_of_isDottedName (h : isDottedName name = true) : name ≠ "" := by
  rintro rfl
  revert h
  decide

/-- A dot joins two qualified names. -/
theorem isDottedName_ofList_append_cons (front back : List Char) :
    isDottedName (String.ofList (front ++ '.' :: back)) =
      (isDottedName (String.ofList front) && isDottedName (String.ofList back)) := by
  simp only [isDottedName, String.toList_ofList, splitOn_append_cons, List.all_append]

/-- A qualified name does not end with a dot. -/
theorem getLast?_ne_of_isDottedName (h : isDottedName name = true) : name.toList.getLast? ≠ some '.' := by
  intro hlast
  obtain ⟨front, hfront⟩ := List.getLast?_eq_some_iff.1 hlast
  rw [← String.ofList_toList (s := name), hfront, isDottedName_ofList_append_cons, Bool.and_eq_true] at h
  exact absurd h.2 (by decide)

/-- Other characters do not occur in a qualified name. -/
theorem notMem_of_isDottedName (h : isDottedName name = true) (hc : isNamePart c = false)
    (hdot : c ≠ '.') : c ∉ name.toList :=
  fun hmem => by rw [isNamePart_of_isDottedName h hmem hdot] at hc; cases hc

/-- There is no white space in a qualified name. -/
theorem isBlank_of_isDottedName (h : isDottedName name = true) (hc : c ∈ name.toList) :
    isBlank c = false := by
  by_cases hdot : c = '.'
  · rw [hdot]
    decide
  · exact isBlank_of_isNamePart (isNamePart_of_isDottedName h hc hdot)

/-- Trimming leaves a qualified name alone. -/
theorem trim_of_isDottedName (h : isDottedName name = true) : trim name.toList = name.toList :=
  trim_of_forall fun _ hc => isBlank_of_isDottedName h hc

/-- A type expression without closing brackets has neither arguments nor elements. -/
theorem outline_of_notMem {cs : List Char} (hangle : '>' ∉ cs) (hbracket : ']' ∉ cs) :
    TypeText.outline cs = .simple cs := by
  have hlast : (cs.getLast? == some '>') = false := by
    rw [beq_eq_false_iff_ne]
    exact fun heq => hangle (List.mem_of_getLast? heq)
  have harray : "[]".toList.isSuffixOf cs = false := by
    rw [← Bool.not_eq_true, List.isSuffixOf_iff_suffix]
    exact fun hsuffix => hbracket (hsuffix.subset (by decide))
  rw [TypeText.outline, hlast, Bool.and_false, harray]
  rfl

/-- As a type expression a qualified name has neither arguments nor elements. -/
theorem outline_of_isDottedName (h : isDottedName name = true) :
    TypeText.outline name.toList = .simple name.toList :=
  outline_of_notMem (notMem_of_isDottedName h (by decide) (by decide))
    (notMem_of_isDottedName h (by decide) (by decide))

/-- The simple name of a qualified name is the last of its names. -/
theorem simpleName_of_isDottedName (h : isDottedName name = true) :
    simpleName name = String.ofList (afterLast '.' name.toList) := by
  have hangle : '<' ∉ name.toList := notMem_of_isDottedName h (by decide) (by decide)
  rw [simpleName, before_of_notMem hangle, trim_of_isDottedName h]

/-- The simple name of a qualified name is a name. -/
theorem isName_simpleName (h : isDottedName name = true) : isName (simpleName name) = true := by
  rw [simpleName_of_isDottedName h]
  exact isName_of_mem_splitOn h (afterLast_mem_splitOn '.' name.toList)

end

end BeanGen.Java
