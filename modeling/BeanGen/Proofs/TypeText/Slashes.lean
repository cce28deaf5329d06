import BeanGen.Proofs.TypeText.Kept
import BeanGen.Proofs.TypeText.Parentheses

/-!
# Comments taken for types

A block comment begins and ends with a slash. As the text of a type it has no meaning: no keyword, no name and
no text of a literal begins with a slash, and nothing that is recognised by its end ends with one. So a comment
in place of a type is mapped to `Object` (`javaType_slashes`), whatever is written in it.
-/

namespace BeanGen

open Text Java

namespace TypeText

section
variable {rest : List Char}

/-- No word for a type begins with a slash. -/
theorem simpleType?_slash : simpleType? ('/' :: rest) = none := by
  have hhead : ∀ {cs : List Char}, cs.head? ≠ some '/' → cs ≠ '/' :: rest := by
    rintro cs hcs rfl
    exact hcs rfl
  have hwords : ∀ word ∈ sourceWords, word.toList.head? ≠ some '/' := by decide
  have hkeywords : ∀ p : Primitive, p.keyword.toList.head? ≠ some '/' := by
    intro p
    cases p <;> decide
  have hoperators : ∀ operator ∈ typeOperators, ∃ c cs, operator.toList = c :: cs ∧ c ≠ '/' := by
    simp [typeOperators]
  refine simpleType?_eq_none (fun word hword => hhead (hwords word hword)) ?_ ?_ rfl ?_
  · rintro c ⟨⟩
    decide
  · rintro ⟨p, hp⟩
    refine hhead (hkeywords p) ?_
    rw [← hp, String.toList_ofList]
  · rw [List.any_eq_false]
    intro operator hoperator hbegins
    obtain ⟨c, cs, heq, hc⟩ := hoperators operator hoperator
    obtain ⟨back, hback⟩ := List.isPrefixOf_iff_prefix.1 hbegins
    rw [heq] at hback
    exact hc (List.cons.inj hback).1

/-- Text between two slashes is no type. -/
theorem read_slashes (hlast : ('/' :: rest).getLast? = some '/') : read ('/' :: rest) = .settled .object := by
  have hgeneric : generic? ('/' :: rest) = none := by
    rw [generic?, hlast]
    rfl
  have hpieces : ∃ first more, splitTop '|' ('/' :: rest) = ('/' :: first) :: more := by
    have hcut := splitTop_cons (by decide : isStructural '/' = false) (by decide : '/' ≠ '|') rest
    obtain ⟨first, more, hrest⟩ := List.exists_cons_of_ne_nil (splitTop_ne_nil '|' rest)
    rw [hrest] at hcut
    exact ⟨first, more, hcut⟩
  have htexts : ((splitTop '|' ('/' :: rest)).filter (!allBlank ·)).all isTextLike = false := by
    obtain ⟨first, more, hcut⟩ := hpieces
    have hkept : allBlank ('/' :: first) = false := rfl
    have htrim : trim ('/' :: first) = '/' :: trimEnd first := by
      rw [trim, trimStart_of_head? (by rintro c ⟨⟩; rfl)]
      exact trimEnd_append_cons rfl [] first
    have hslash : isTextLike ('/' :: first) = false := by
      rw [isTextLike, htrim, unwrapParens, if_neg (by rintro ⟨⟨⟩, -⟩)]
      rfl
    rw [hcut, List.filter_cons, hkept, Bool.not_false, if_pos rfl, List.all_cons, hslash, Bool.false_and]
  have hplain : readPlain none ('/' :: rest) = .settled .object := by
    have hstructure : readStructure? none ('/' :: rest) = none := by
      have hbrackets : "[]".toList.isSuffixOf ('/' :: rest) = false := by
        rw [← Bool.not_eq_true, List.isSuffixOf_iff_suffix]
        rintro ⟨front, hfront⟩
        rw [← hfront, List.getLast?_append] at hlast
        cases hlast
      rw [readStructure?, hbrackets]
      rfl
    have hname : readName none ('/' :: rest) = .settled .object := by
      have hqualified : isQualifiedName ('/' :: rest) = false := by
        rw [← Bool.not_eq_true]
        intro hqualified
        obtain ⟨c, cs, heq, hstart⟩ := exists_of_isQualifiedName hqualified
        obtain rfl : '/' = c := (List.cons.inj heq).1
        cases hstart
      rw [readName, simpleType?_slash, hqualified]
      rfl
    have htemplate : isTemplate ('/' :: rest) = false := rfl
    rw [readPlain, htemplate, htexts, hstructure, Option.getD_none, hname]
    simp
  rw [read, hgeneric]
  exact hplain

theorem normalize_slashes {raw : List Char} (hfirst : raw.head? = some '/') (hlast : raw.getLast? = some '/') :
    ∃ rest, normalize raw = '/' :: rest ∧ ('/' :: rest).getLast? = some '/' := by
  have hhead : (squeeze raw).head? = some '/' := (head?_squeeze_eq_some_iff rfl).2 hfirst
  have hend : (squeeze raw).getLast? = some '/' := by
    rw [getLast?_squeeze, hlast]
    rfl
  have hcollapse : collapse raw = squeeze raw := by
    refine trim_of_ends ?_ ?_
    · rw [hhead]
      rintro c ⟨⟩
      rfl
    · rw [hend]
      rintro c ⟨⟩
      rfl
  obtain ⟨rest, hrest⟩ := List.head?_eq_some_iff.1 hhead
  have hbar : ('/' :: rest).dropWhile isLeadingBar = '/' :: rest := rfl
  refine ⟨rest, ?_, hrest ▸ hend⟩
  rw [normalize, hcollapse, hrest, hbar, unwrapParens, if_neg (by rintro ⟨⟨⟩, -⟩)]

/-- Text that begins and ends with a slash is mapped to `Object`. -/
theorem javaType_slashes {raw : List Char} (hfirst : raw.head? = some '/') (hlast : raw.getLast? = some '/')
    (optional : Bool) : javaType optional raw = .object := by
  obtain ⟨rest, hnormal, hend⟩ := normalize_slashes hfirst hlast
  rw [javaType_of_settled (hnormal ▸ read_slashes hend)]
  cases optional <;> rfl

end

end TypeText
end BeanGen
