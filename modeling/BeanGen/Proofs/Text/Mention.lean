import BeanGen.Proofs.Java.Name
import BeanGen.Proofs.Text.Blank
import BeanGen.Proofs.Text.Squeeze
import BeanGen.Text.WordChar

/-!
# Names that a text mentions

A text mentions a name when the name stands in it as a word of its own: neither as a part of a longer
name nor as a segment of a qualified one (`Mentions`). A mention stays where a text is surrounded by
other characters than those of names (`Mentions.within`), and a character that is not in the name
separates a text in two parts one of which has the mention (`Mentions.of_append_cons`). Words of text in
which only white space is changed are mentioned there before (`Mentions.of_squeeze`).
-/

namespace BeanGen.Text

/-- A character of a simple or a qualified name. -/
def isWordPart (c : Char) : Bool :=
  isWordChar c || c == '$' || c == '.'

/-- The name stands in the text, and what stands next to it is no part of a name. -/
def Mentions (name text : List Char) : Prop :=
  ∃ front back, text = front ++ name ++ back ∧
    (∀ c ∈ front.getLast?, isWordPart c = false) ∧ ∀ c ∈ back.head?, isWordPart c = false

/-- A mention begins at one of the places in the text. -/
theorem mentions_iff {name text : List Char} :
    Mentions name text ↔ ∃ n < text.length + 1,
      text = text.take n ++ name ++ text.drop (n + name.length) ∧
        (text.take n).getLast?.any isWordPart = false ∧
          (text.drop (n + name.length)).head?.any isWordPart = false := by
  constructor
  · rintro ⟨front, back, rfl, hfront, hback⟩
    have hplace : front.length < (front ++ name ++ back).length + 1 := by
      rw [List.length_append, List.length_append]
      omega
    have htake : (front ++ name ++ back).take front.length = front := by simp
    have hdrop : (front ++ name ++ back).drop (front.length + name.length) = back := by
      rw [← List.length_append, List.drop_left]
    refine ⟨front.length, hplace, ?_⟩
    rw [htake, hdrop]
    exact ⟨rfl, (Option.any_eq_false _ _).2 hfront, (Option.any_eq_false _ _).2 hback⟩
  · rintro ⟨n, -, htext, hfront, hback⟩
    exact ⟨_, _, htext, (Option.any_eq_false _ _).1 hfront, (Option.any_eq_false _ _).1 hback⟩

instance (name text : List Char) : Decidable (Mentions name text) :=
  decidable_of_iff _ mentions_iff.symm

example : Mentions "A".toList "Map<string, A[]>".toList ∧ ¬ Mentions "A".toList "AB | x.A".toList := by
  decide

/-! ## White space and names -/

/-- The white space outside of ASCII. -/
def wideBlanks : List Nat :=
  [0x85, 0xa0, 0x1680, 0x2000, 0x2001, 0x2002, 0x2003, 0x2004, 0x2005, 0x2006, 0x2007, 0x2008, 0x2009,
   0x200a, 0x2028, 0x2029, 0x202f, 0x205f, 0x3000]

/-- No white space is in the ranges of letters, digits and numerals. -/
theorem inRanges_wideBlanks : ∀ n ∈ wideBlanks,
    inRanges wordRanges n (wordRanges.size + 1) 0 wordRanges.size = false := by
  decide +kernel

/-- White space is no part of a name. -/
theorem isWordPart_of_isBlank {c : Char} (h : isBlank c = true) : isWordPart c = false := by
  have hname : Java.isNamePart c = false := by
    rw [← Bool.not_eq_true]
    intro hpart
    rw [Java.isBlank_of_isNamePart hpart] at h
    cases h
  have hdot : c ≠ '.' := by
    rintro rfl
    exact absurd h (by decide)
  have hwide : 0x80 ≤ c.toNat → c.toNat ∈ wideBlanks := by
    intro hbound
    simp only [isBlank, Bool.or_eq_true, Bool.and_eq_true, decide_eq_true_eq, beq_iff_eq] at h
    simp only [wideBlanks, List.mem_cons, List.not_mem_nil, or_false]
    omega
  simp only [Java.isNamePart, Java.isNameStart, Bool.or_eq_false_iff] at hname
  obtain ⟨⟨⟨hletter, hunderscore⟩, hdollar⟩, hdigit⟩ := hname
  rw [isWordPart, isWordChar, hletter, hdigit, hunderscore, hdollar, beq_false_of_ne hdot]
  simp only [Bool.false_or, Bool.or_false, Bool.and_eq_false_iff, decide_eq_false_iff_not]
  by_cases hbound : 0x80 ≤ c.toNat
  · exact .inr (inRanges_wideBlanks _ (hwide hbound))
  · exact .inl hbound

/-! ## Mentions in parts of a text -/

namespace Mentions

section
variable {name text front back : List Char}

/-- A name mentions itself. -/
theorem refl (name : List Char) : Mentions name name :=
  ⟨[], [], by simp, by simp, by simp⟩

/-- The characters of a mentioned name are in the text. -/
theorem subset (h : Mentions name text) : name ⊆ text := by
  obtain ⟨front, back, rfl, -, -⟩ := h
  intro c hc
  simp [hc]

/-- The empty text mentions no name. -/
theorem ne_nil (h : Mentions name text) (hne : name ≠ []) : text ≠ [] := by
  rintro rfl
  obtain ⟨first, rest, rfl⟩ := List.exists_cons_of_ne_nil hne
  exact List.not_mem_nil (h.subset List.mem_cons_self)

/-- A mention stays between characters that are no parts of names. -/
theorem within (h : Mentions name text) (front back : List Char)
    (hfront : ∀ c ∈ front.getLast?, isWordPart c = false)
    (hback : ∀ c ∈ back.head?, isWordPart c = false) : Mentions name (front ++ text ++ back) := by
  obtain ⟨before, behind, rfl, hbefore, hbehind⟩ := h
  refine ⟨front ++ before, behind ++ back, by simp, ?_, ?_⟩
  · intro c hc
    rw [List.getLast?_append] at hc
    cases hlast : before.getLast? with
    | none =>
      rw [hlast, Option.none_or] at hc
      exact hfront c hc
    | some last =>
      rw [hlast, Option.some_or] at hc
      exact hbefore c (hlast ▸ hc)
  · intro c hc
    rw [List.head?_append] at hc
    cases hhead : behind.head? with
    | none =>
      rw [hhead, Option.none_or] at hc
      exact hback c hc
    | some first =>
      rw [hhead, Option.some_or] at hc
      exact hbehind c (hhead ▸ hc)

/-- What is left of a text by trimming mentions no other names. -/
theorem of_trim (h : Mentions name (trim text)) : Mentions name text := by
  obtain ⟨front, back, htext, hfront, hback⟩ := exists_trim text
  rw [htext]
  refine h.within _ _ (fun c hc => ?_) fun c hc => ?_
  · exact isWordPart_of_isBlank (hfront c (List.mem_of_getLast? hc))
  · exact isWordPart_of_isBlank (hback c (List.mem_of_mem_head? hc))

/-- A character that is not in the name stands in front of the mention or behind it. -/
theorem of_append_cons {c : Char} (h : Mentions name (front ++ c :: back)) (hc : c ∉ name) :
    Mentions name front ∨ Mentions name back := by
  obtain ⟨before, behind, htext, hbefore, hbehind⟩ := h
  rw [List.append_assoc] at htext
  rcases List.append_eq_append_iff.1 htext with ⟨gap, rfl, hgap⟩ | ⟨gap, rfl, hgap⟩
  · cases gap with
    | nil =>
      cases name with
      | nil =>
        rw [List.append_nil] at hbefore
        exact .inl ⟨front, [], by simp, hbefore, by simp⟩
      | cons first rest => exact absurd (List.cons.inj hgap).1 fun heq => hc (heq ▸ List.mem_cons_self)
    | cons first gap =>
      obtain ⟨-, rfl⟩ := List.cons.inj hgap
      refine .inr ⟨gap, behind, by simp, fun d hd => hbefore d ?_, hbehind⟩
      rw [List.getLast?_append, List.getLast?_cons, Option.mem_def.1 hd]
      rfl
  · rcases List.append_eq_append_iff.1 hgap with ⟨rest, rfl, hrest⟩ | ⟨rest, rfl, hrest⟩
    · refine .inl ⟨before, rest, by simp, hbefore, fun d hd => hbehind d ?_⟩
      rw [hrest, List.head?_append, Option.mem_def.1 hd]
      rfl
    · cases rest with
      | nil => exact .inl ⟨before, [], by simp, hbefore, by simp⟩
      | cons first rest =>
        obtain ⟨rfl, -⟩ := List.cons.inj hrest
        exact absurd (by simp) hc

/-- A text that is a name mentions no other one. -/
theorem eq_of_forall (h : Mentions name text)
    (htext : ∀ c ∈ text, isWordPart c = true) : name = text := by
  obtain ⟨before, behind, rfl, hbefore, hbehind⟩ := h
  have hbefore : before = [] := by
    rw [← List.getLast?_eq_none_iff, Option.eq_none_iff_forall_not_mem]
    intro c hc
    have hpart := htext c (by simp [List.mem_of_getLast? hc])
    rw [hbefore c hc] at hpart
    cases hpart
  have hbehind : behind = [] := by
    rw [← List.head?_eq_none_iff, Option.eq_none_iff_forall_not_mem]
    intro c hc
    have hpart := htext c (by simp [List.mem_of_mem_head? hc])
    rw [hbehind c hc] at hpart
    cases hpart
  rw [hbefore, hbehind, List.nil_append, List.append_nil]

/-- The first character of a text is not the beginning of a name that begins otherwise. -/
theorem of_cons {c : Char} (h : Mentions name (c :: text)) (hne : name ≠ [])
    (hhead : name.head? ≠ some c) : Mentions name text := by
  obtain ⟨before, behind, htext, hbefore, hbehind⟩ := h
  cases before with
  | nil =>
    obtain ⟨first, rest, rfl⟩ := List.exists_cons_of_ne_nil hne
    rw [List.nil_append, List.cons_append] at htext
    exact absurd (congrArg some (List.cons.inj htext).1).symm hhead
  | cons first before =>
    rw [List.cons_append, List.cons_append] at htext
    refine ⟨before, behind, (List.cons.inj htext).2, fun d hd => ?_, hbehind⟩
    refine hbefore d ?_
    rw [List.getLast?_cons, Option.mem_def.1 hd]
    rfl

/-- What a list of texts mentions, set off by commas, one of them mentions. -/
theorem of_intercalate {pieces : List (List Char)} (h : Mentions name (", ".toList.intercalate pieces))
    (hne : name ≠ []) (hcomma : ',' ∉ name) (hspace : name.head? ≠ some ' ') :
    ∃ piece ∈ pieces, Mentions name piece := by
  induction pieces with
  | nil => exact absurd (by simp) (h.ne_nil hne)
  | cons piece rest ih =>
    cases rest with
    | nil => exact ⟨piece, List.mem_cons_self, by simpa using h⟩
    | cons next rest =>
      rw [intercalate_comma] at h
      rcases h.of_append_cons hcomma with hpiece | hrest
      · exact ⟨piece, List.mem_cons_self, hpiece⟩
      · obtain ⟨other, hmem, hother⟩ := ih (hrest.of_cons hne hspace)
        exact ⟨other, List.mem_cons_of_mem _ hmem, hother⟩

end

end Mentions

/-! ## Mentions in a squeezed text -/

section
variable {name front back : List Char} {c : Char} {cs : List Char}

/-- A cut behind the space for white space is one in the squeezed text behind its first character, since the
space is written for the last one. -/
theorem exists_of_squeeze_cons_of_isBlank {first : Char} (hc : isBlank c = true) (hne : back ≠ [])
    (h : squeeze (c :: cs) = first :: front ++ back) :
    ∃ front', squeeze cs = front' ++ back ∧
      ∀ d, front'.getLast? = some d → (first :: front).getLast? = some d := by
  cases cs with
  | nil =>
    rw [squeeze, List.cons_append] at h
    exact absurd (List.append_eq_nil_iff.1 (List.cons.inj h).2.symm).2 hne
  | cons d cs =>
    cases hd : isBlank d with
    | true =>
      refine ⟨first :: front, ?_, fun _ => id⟩
      simpa [squeeze, hc, hd] using h
    | false =>
      have hsqueeze : squeeze (c :: d :: cs) = ' ' :: squeeze (d :: cs) := by
        simp [squeeze, hc, hd]
      rw [hsqueeze, List.cons_append] at h
      exact ⟨front, (List.cons.inj h).2, fun e he => by rw [List.getLast?_cons, he]; rfl⟩

/-- Where a squeezed text can be cut, the text can be cut with the same part of a name in front of the
cut, or with none there. -/
theorem exists_of_append_eq_squeeze (hne : back ≠ []) (h : squeeze cs = front ++ back) :
    ∃ before rest, cs = before ++ rest ∧ squeeze rest = back ∧
      ∀ d ∈ before.getLast?, isWordPart d = true → front.getLast? = some d := by
  induction cs generalizing front with
  | nil => exact absurd (List.append_eq_nil_iff.1 h.symm).2 hne
  | cons c cs ih =>
    cases front with
    | nil => exact ⟨[], c :: cs, rfl, h, by simp⟩
    | cons first front =>
      have hlonger : ∀ d, front.getLast? = some d → (first :: front).getLast? = some d := by
        intro d hd
        rw [List.getLast?_cons, hd]
        rfl
      cases hc : isBlank c with
      | false =>
        rw [squeeze_cons_of_not hc, List.cons_append] at h
        obtain ⟨rfl, hcs⟩ := List.cons.inj h
        obtain ⟨before, rest, rfl, rfl, hlast⟩ := ih hcs
        refine ⟨c :: before, rest, rfl, rfl, fun d hd hpart => ?_⟩
        cases before with
        | nil =>
          -- nothing is cut off in front of the rest, in the squeezed text neither
          have hfront : front = [] := List.append_left_eq_self.1 hcs.symm
          rw [hfront]
          exact hd
        | cons other before => exact hlonger d (hlast d hd hpart)
      | true =>
        obtain ⟨front', hcs, hfront'⟩ := exists_of_squeeze_cons_of_isBlank hc hne h
        obtain ⟨before, rest, rfl, rfl, hlast⟩ := ih hcs
        refine ⟨c :: before, rest, rfl, rfl, fun d hd hpart => ?_⟩
        cases before with
        | nil =>
          obtain rfl : c = d := by simpa using hd
          rw [isWordPart_of_isBlank hc] at hpart
          cases hpart
        | cons other before => exact hfront' d (hlast d hd hpart)

/-- A name without white space that a squeezed text mentions is mentioned in the text. -/
theorem Mentions.of_squeeze (h : Mentions name (squeeze cs)) (hne : name ≠ [])
    (hname : ∀ d ∈ name, isBlank d = false) : Mentions name cs := by
  obtain ⟨front, back, hcs, hfront, hback⟩ := h
  rw [List.append_assoc] at hcs
  obtain ⟨first, others, rfl⟩ := List.exists_cons_of_ne_nil hne
  obtain ⟨before, rest, rfl, hrest, hbefore⟩ :=
    exists_of_append_eq_squeeze (by simp) hcs
  obtain ⟨behind, rfl, rfl⟩ := exists_of_squeeze_eq_append hname hrest
  refine ⟨before, behind, by simp, fun d hd => ?_, fun d hd => ?_⟩
  · rw [← Bool.not_eq_true]
    intro hpart
    exact absurd hpart (by rw [hfront d (hbefore d hd hpart)]; exact Bool.false_ne_true)
  · cases hd' : isBlank d with
    | true => exact isWordPart_of_isBlank hd'
    | false => exact hback d ((head?_squeeze_eq_some_iff hd').2 hd)

end

end BeanGen.Text
