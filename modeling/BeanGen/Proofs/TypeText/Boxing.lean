import BeanGen.Proofs.TypeText.Canonical

/-!
# What optional values change

That a value may be missing is passed on through the wrappers of a type text, set by some of them and
forgotten inside lists and maps. All it comes to is the wrapper of the type that the text has otherwise
(`javaType_true`). For mapped types the wrapper of a type and that of its text are the same
(`IsCanonical.print_boxed`), so the text of a type that may be missing is the other one with a primitive type
replaced (`javaTypeText_true`).
-/

namespace BeanGen

open Java TypeText

namespace Java

/-- A text is boxed by the wrapper of the primitive type that it names. -/
theorem boxText_keyword (p : Primitive) : boxText p.keyword = p.wrapper := by
  cases p <;> rfl

/-- A text that names no primitive type is not boxed. -/
theorem boxText_of_not_isPrimitive {type : String} (h : ¬ IsPrimitive type) : boxText type = type := by
  rw [isPrimitive_iff, Bool.not_eq_true, Option.isSome_eq_false_iff, Option.isNone_iff_eq_none] at h
  rw [boxText, h]

namespace TypeExpr

/-- A wrapper has no wrapper of its own. -/
theorem boxed_boxed (type : TypeExpr) : type.boxed.boxed = type.boxed := by
  cases type <;> rfl

/-- A type that is not primitive stands for missing values as it is. -/
theorem boxed_of_not_isPrimitive {type : TypeExpr} (h : type.isPrimitive = false) : type.boxed = type := by
  cases type with
  | prim p => cases h
  | named name => rfl
  | applied name args => rfl

/-- The wrapper of a canonical type is printed as the boxed text of the type. -/
theorem IsCanonical.print_boxed {type : TypeExpr} (h : type.IsCanonical) :
    type.boxed.print = boxText type.print := by
  cases hprimitive : type.isPrimitive with
  | true =>
    cases type with
    | prim p =>
      rw [TypeExpr.boxed, print, print]
      exact (boxText_keyword p).symm
    | named name => cases hprimitive
    | applied name args => cases hprimitive
  | false =>
    have htext : ¬ IsPrimitive type.print := by
      intro htext
      rw [h.isPrimitive_of_print htext] at hprimitive
      cases hprimitive
    rw [boxed_of_not_isPrimitive hprimitive, boxText_of_not_isPrimitive htext]

/-- A canonical type whose values may be missing is printed as its text, boxed if they may. -/
theorem IsCanonical.print_boxedIf {type : TypeExpr} (h : type.IsCanonical) (optional : Bool) :
    (type.boxedIf optional).print = if optional then boxText type.print else type.print := by
  cases optional with
  | true => exact h.print_boxed
  | false => rfl

end TypeExpr

end Java

namespace TypeText

open TypeExpr

/-- Values that may be missing have the wrapper of the type that they have otherwise. -/
theorem javaType_true (raw : List Char) : javaType true raw = (javaType false raw).boxed := by
  have hpiece : ∀ piece ∈ (read (normalize raw)).pieces, javaType true piece = (javaType false piece).boxed := by
    intro piece hmem
    have hlength : piece.length < raw.length := length_lt_of_mem_pieces hmem
    exact javaType_true piece
  rw [javaType_eq, javaType_eq]
  generalize read (normalize raw) = reading at hpiece
  cases reading with
  | settled type => rfl
  | same absent piece =>
    have hsame := hpiece piece (List.mem_singleton_self _)
    cases absent with
    | true => exact hsame.trans (by rw [Reading.type, Bool.false_or, hsame, boxed_boxed])
    | false => exact hsame
  | listOf piece => rfl
  | mapOf key value => cases value <;> rfl
  | applied name args => rfl
termination_by raw.length

/-- Whatever type text a member is declared with, without a hint the type of an optional member is the boxed
type of one that is not. -/
theorem javaTypeText_true (raw : Option String) :
    javaTypeText true none raw = boxText (javaTypeText false none raw) := by
  have hcanonical := (isCanonical_javaType false (raw.getD "").toList).1
  rw [javaTypeText, javaTypeText, Option.bind_none]
  dsimp only
  rw [javaType_true, hcanonical.print_boxed]

end TypeText

end BeanGen
