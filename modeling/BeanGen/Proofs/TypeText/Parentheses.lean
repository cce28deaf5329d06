import BeanGen.Proofs.TypeText.Unions

/-!
# Parentheses around a type

Normalisation takes parentheses off that stand around the whole of a balanced text, and what it leaves is the
text on one line (`normalize_parens`). Separators in front of the alternatives it drops as well, but only
before it takes parentheses off. So a type in parentheses is mapped like the type unless a separator stands
behind the first parenthesis. Such a text is read as a union whose first alternative is empty, and its type
is `String` or `Object` whatever the alternatives are (`read_of_beginsWithBar`, `javaTypeText_parens`).
-/

namespace BeanGen

open Text Java

namespace TypeText

/-- The text begins with a separator of alternatives, white space aside. -/
def beginsWithBar (cs : List Char) : Bool :=
  (trim cs).head?.any fun c => c == '|' || c == '&'

/-- The text has no arrow, and what stands between its bars looks like a text each time. -/
def looksTextBetweenBars (cs : List Char) : Bool :=
  !hasTopArrow cs && ((splitTop '|' cs).filter (!allBlank ·)).all isTextLike

section
variable {cs : List Char}

/-! ## Normal form -/

/-- Texts with one normal form are mapped to one type. -/
theorem javaType_congr {raw other : List Char} (h : normalize raw = normalize other) (optional : Bool) :
    javaType optional raw = javaType optional other := by
  rw [javaType, javaType.eq_def optional other, h]

/-- A text is squeezed with the brackets around it as it is without them. -/
theorem squeeze_bracket {o c : Char} (ho : isBlank o = false) (hc : isBlank c = false) (cs : List Char) :
    squeeze (o :: cs ++ [c]) = o :: squeeze cs ++ [c] := by
  rw [List.cons_append, squeeze_cons_of_not ho, squeeze_append_cons hc]
  rfl

/-- A text is on one line with the brackets around it as it is without them. -/
theorem collapse_bracket {o c : Char} (ho : isBlank o = false) (hc : isBlank c = false) (cs : List Char) :
    collapse (o :: cs ++ [c]) = o :: squeeze cs ++ [c] := by
  rw [collapse, squeeze_bracket ho hc]
  refine trim_of_ends (by simpa using ho) fun d hd => ?_
  rw [List.getLast?_concat] at hd
  exact Option.some.inj hd ▸ hc

/-- Parentheses around a balanced text are taken off, but no separators behind the first of them. -/
theorem normalize_parens (h : IsBalanced cs) :
    normalize ('(' :: cs ++ [')']) = unwrapParens (collapse cs) := by
  have hcloses := (UnionText.balanced_and_closes h.squeeze).2
  rw [normalize, collapse_bracket rfl rfl, List.cons_append, List.dropWhile_cons_of_neg (by decide),
    ← List.cons_append, unwrapParens, if_pos ⟨rfl, hcloses⟩]
  simp [collapse]

/-- Without a separator in front, a text is in normal form when it is on one line and the parentheses around
it are taken off. -/
theorem normalize_of_not (h : beginsWithBar cs = false) : normalize cs = unwrapParens (collapse cs) := by
  rw [normalize]
  cases hline : collapse cs with
  | nil => rfl
  | cons c rest =>
    have hhead : (trim cs).head? = some c := by rw [← head?_collapse, hline]; rfl
    have hblank : isBlank c = false := isBlank_of_head?_trim cs hhead
    have hspace : c ≠ ' ' := by
      rintro rfl
      exact absurd hblank (by decide)
    rw [beginsWithBar, hhead, Option.any_some] at h
    rw [List.dropWhile_cons_of_neg]
    simpa [isLeadingBar, hspace] using h

/-- A type in parentheses is mapped like the type if no separator stands in front. -/
theorem javaType_parens_of_not (hbalanced : IsBalanced cs) (h : beginsWithBar cs = false) (optional : Bool) :
    javaType optional ('(' :: cs ++ [')']) = javaType optional cs :=
  javaType_congr (by rw [normalize_parens hbalanced, normalize_of_not h]) optional

/-! ## A separator in front -/

/-- A text that begins with a separator does not look like a text. -/
theorem isTextLike_of_ampersand (rest : List Char) (h : trim ('&' :: rest) = '&' :: rest) :
    isTextLike ('&' :: rest) = false := by
  rw [isTextLike, h, unwrapParens, if_neg (by rintro ⟨⟨⟩, -⟩)]
  rfl

/-- A text with a separator in front is no generic type. -/
theorem generic?_of_beginsWithBar {c : Char} (hc : c ∈ ['|', '&']) (rest : List Char) :
    generic? (c :: rest) = none := by
  have hblank : isBlank c = false := forall_eq_false_of_any (p := isBlank) rfl c hc
  have hangle : c ≠ '<' := by
    rintro rfl
    exact absurd hc (by decide)
  have hbase : ∃ back, trim (before '<' (c :: rest)) = c :: back := by
    have hbefore : before '<' (c :: rest) = c :: before '<' rest :=
      List.takeWhile_cons_of_pos (by simpa using hangle)
    refine ⟨trimEnd (before '<' rest), ?_⟩
    rw [hbefore, trim, trimStart_of_head? (by simpa using hblank)]
    exact trimEnd_append_cons hblank [] _
  have hname : isQualifiedName (trim (before '<' (c :: rest))) = false := by
    obtain ⟨back, hback⟩ := hbase
    rw [← Bool.not_eq_true]
    intro hname
    obtain ⟨d, tail, heq, hstart⟩ := exists_of_isQualifiedName hname
    obtain rfl : c = d := (List.cons.inj (hback.symm.trans heq)).1
    have hmarks : ∀ d ∈ ['|', '&'], isNameStart d = false := forall_eq_false_of_any rfl
    rw [hmarks c hc] at hstart
    cases hstart
  rw [generic?, hname]
  simp

/-- A text with a separator in front has more than one piece. -/
theorem one_lt_length_splitTop_cons {separator : Char} (h : isStructural separator = false) (rest : List Char) :
    1 < (splitTop separator (separator :: rest)).length := by
  have hnothing : Nesting.top.after [] = .top := rfl
  have hcut : splitTop separator (separator :: rest) = splitTop separator [] ++ splitTop separator rest :=
    splitTop_append_cons h hnothing rest
  have hback := List.length_pos_iff.2 (splitTop_ne_nil separator rest)
  rw [hcut, List.length_append, splitTop_of_notMem (List.not_mem_nil), List.length_singleton]
  omega

/-- A text that is not split is its only piece. -/
theorem splitTop_eq_singleton {separator : Char} (h : ¬ 1 < (splitTop separator cs).length) :
    splitTop separator cs = [cs] := by
  have hjoin := intercalate_splitTop separator cs
  obtain ⟨piece, pieces, hcut⟩ := List.exists_cons_of_ne_nil (splitTop_ne_nil separator cs)
  rw [hcut] at hjoin h
  obtain rfl : pieces = [] := by simpa using h
  rw [List.intercalate_singleton] at hjoin
  rw [hcut, hjoin]

/-- A text on one line with a separator in front is read as a union whose first alternative is empty. -/
theorem read_of_beginsWithBar (hline : trim cs = cs) (h : beginsWithBar cs = true) :
    read cs = .settled (if looksTextBetweenBars cs then .text else .object) := by
  rw [beginsWithBar, hline, Option.any_eq_true] at h
  obtain ⟨c, hhead, hbar⟩ := h
  obtain ⟨rest, rfl⟩ := List.head?_eq_some_iff.1 hhead
  have hc : c ∈ ['|', '&'] := by simpa using hbar
  have hother : ∀ d, d ∉ ['|', '&'] → d ≠ c := fun d hd heq => hd (heq ▸ hc)
  have hnone : ∀ d, d ∉ ['|', '&'] → ((c :: rest).head? == some d) = false := by
    intro d hd
    simpa using (hother d hd).symm
  have hreadonly : "readonly ".toList.isPrefixOf (c :: rest) = false := by
    rw [← Bool.not_eq_true, List.isPrefixOf_iff_prefix]
    rintro ⟨back, hback⟩
    exact hother 'r' (by decide) (List.cons.inj hback).1
  have htemplate : isTemplate (c :: rest) = false := by
    have hmark : ['\x60'].contains c = false := by
      simpa using (hother '\x60' (by decide)).symm
    rw [isTemplate, isQuotedBy, hmark, Bool.false_and]
  rw [read, hnone '\x7b' (by decide), hreadonly, generic?_of_beginsWithBar hc]
  simp only [List.isEmpty_cons, Bool.false_and, Bool.false_eq_true, if_false]
  rw [readPlain, htemplate, hnone '[' (by decide), looksTextBetweenBars]
  cases hasTopArrow (c :: rest) with
  | true => simp
  | false =>
    simp only [Bool.false_and, Bool.false_eq_true, if_false, Bool.not_false, Bool.true_and]
    split
    · rfl
    · next hsingle =>
      -- the text begins with the separator of intersections and is one piece, which is no text
      obtain rfl : c = '&' := by
        refine (by simpa using hc : c = '|' ∨ c = '&').resolve_left fun heq => hsingle ?_
        rw [heq]
        exact one_lt_length_splitTop_cons rfl rest
      have hwhole : splitTop '|' ('&' :: rest) = ['&' :: rest] := splitTop_eq_singleton hsingle
      have hnonblank : allBlank ('&' :: rest) = false := rfl
      rw [if_pos (one_lt_length_splitTop_cons rfl rest), hwhole]
      simp [hnonblank, isTextLike_of_ampersand rest hline]

/-! ## The type in parentheses -/

/-- A type in parentheses is mapped like the type, unless it begins with a separator. Then it is mapped like
a union. -/
theorem javaType_parens (h : IsBalanced cs) (optional : Bool) :
    javaType optional ('(' :: cs ++ [')']) =
      if beginsWithBar cs then (if looksTextBetweenBars (collapse cs) then .text else .object)
      else javaType optional cs := by
  cases hbar : beginsWithBar cs with
  | false => exact javaType_parens_of_not h hbar optional
  | true =>
    have hline : beginsWithBar (collapse cs) = true := by
      rw [beginsWithBar, ← head?_collapse, collapse_collapse, head?_collapse]
      exact hbar
    have hparen : (collapse cs).head? ≠ some '(' := by
      intro hhead
      rw [beginsWithBar, ← head?_collapse, hhead] at hbar
      cases hbar
    have hnormal : normalize ('(' :: cs ++ [')']) = collapse cs := by
      rw [normalize_parens h, unwrapParens, if_neg fun hwrapped => hparen hwrapped.1]
    have hread := read_of_beginsWithBar (trim_trim (squeeze cs)) hline
    rw [← collapse, ← hnormal] at hread
    rw [javaType_of_settled hread, hnormal]
    cases looksTextBetweenBars (collapse cs) <;> cases optional <;> rfl

end

/-- **When parentheses do not change a type.** A balanced type text in parentheses is mapped to the type that it
is mapped to without them, unless a separator of alternatives stands in front, which is dropped without
parentheses only. Behind a parenthesis it makes the text a union: a text if the text has no arrow and what
stands between its bars looks like a text each time, and an object otherwise. -/
theorem javaTypeText_parens {cs : List Char} (h : IsBalanced cs) (optional : Bool) :
    javaTypeText optional none (some (String.ofList ('(' :: cs ++ [')']))) =
      if beginsWithBar cs then (if looksTextBetweenBars (collapse cs) then "String" else "Object")
      else javaTypeText optional none (some (String.ofList cs)) := by
  rw [javaTypeText_ofList, javaTypeText_ofList, javaType_parens h]
  split
  · split
    · exact TypeExpr.print_text
    · exact TypeExpr.print_object
  · rfl

/-- Two literals over several lines, a separator in front of each, are a text in parentheses. -/
theorem javaTypeText_parens_literals : IsBalanced "\n  | 'a'\n  | 'b'".toList ∧
    javaTypeText true none (some "(\n  | 'a'\n  | 'b')") = "String" := by
  have hbalanced : IsBalanced "\n  | 'a'\n  | 'b'".toList := by decide
  have hlooks : looksTextBetweenBars (collapse "\n  | 'a'\n  | 'b'".toList) = true := by cbv
  have hbar : beginsWithBar "\n  | 'a'\n  | 'b'".toList = true := rfl
  have hmapped := javaTypeText_parens hbalanced true
  rw [hbar, hlooks] at hmapped
  exact ⟨hbalanced, hmapped⟩

/-- A number with a separator in front is mapped to an object in parentheses, and to a number without. -/
theorem not_forall_javaTypeText_parens : ¬ ∀ (cs : List Char) (optional : Bool), IsBalanced cs →
    cs.getLast? ≠ some '=' → javaTypeText optional none (some (String.ofList ('(' :: cs ++ [')']))) =
      javaTypeText optional none (some (String.ofList cs)) := by
  intro h
  have hbalanced : IsBalanced "| number".toList := by decide
  have hlooks : looksTextBetweenBars (collapse "| number".toList) = false := by cbv
  have hnumber : read (normalize "| number".toList) = .settled (.prim .double) := by
    rw [normalize, unwrapParens, if_neg (by decide)]
    rfl
  have hsame := h "| number".toList false hbalanced (by decide)
  have hbar : beginsWithBar "| number".toList = true := rfl
  rw [javaTypeText_ofList, javaTypeText_ofList, javaType_parens hbalanced, hbar, hlooks,
    javaType_of_settled hnumber] at hsame
  revert hsame
  simp [TypeExpr.boxedIf, TypeExpr.print, Primitive.keyword]

end TypeText

end BeanGen
