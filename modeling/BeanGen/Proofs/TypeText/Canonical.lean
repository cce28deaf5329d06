import BeanGen.Proofs.TypeText.Mapping

/-!
# The texts of mapped types

Whatever the text of a type looks like, what it is mapped to is written as a Java type: a primitive type,
a name, or a name with arguments that are no primitive types (`IsJavaType`). Nothing of the text is left in
it but names, and no word of the source language stands for a type of its own. Types are canonical when
their parts are such names (`TypeExpr.IsCanonical`). A reading settles canonical types only
(`ReadsAs.isCanonical`), and the types of pieces are put together to canonical ones
(`isCanonical_javaType`), which print as Java types (`TypeExpr.IsCanonical.isJavaType_print`).
-/

namespace BeanGen

open Java

namespace TypeText

/-! ## Java types -/

/-- The keyword of a primitive type. -/
def IsPrimitive (type : String) : Prop :=
  ∃ p : Primitive, type = p.keyword

/-- A text is the keyword of a primitive type exactly when the type is found by it. -/
theorem isPrimitive_iff {type : String} :
    IsPrimitive type ↔ (Primitive.ofKeyword? type).isSome = true := by
  rw [Primitive.ofKeyword?, List.find?_isSome]
  constructor
  · rintro ⟨p, rfl⟩
    exact ⟨p, by cases p <;> decide, beq_self_eq_true _⟩
  · rintro ⟨p, -, hp⟩
    exact ⟨p, (eq_of_beq hp).symm⟩

instance (type : String) : Decidable (IsPrimitive type) :=
  decidable_of_iff _ isPrimitive_iff.symm

/-- The words of the source language that denote a type and none in Java. -/
def sourceWords : List String :=
  ["string", "number", "any", "unknown", "null", "undefined", "void", "never", "object", "true",
   "false"]

/-- A name that may stand for a type of its own: qualified or not, no word of the source language and not
the single capital letter of a type parameter. -/
structure IsTypeName (name : String) : Prop where
  qualified : isQualifiedName name.toList = true
  notSourceWord : name ∉ sourceWords
  notCapital : ∀ c, name.toList = [c] → ¬('A' ≤ c ∧ c ≤ 'Z')

/-- The texts of Java types. -/
inductive IsJavaType : String → Prop
  | primitive (p : Primitive) : IsJavaType p.keyword
  | name {name : String} (h : IsTypeName name) : IsJavaType name
  | applied {name : String} {args : List String} (hname : isQualifiedName name.toList = true)
      (hargs : ∀ arg ∈ args, IsJavaType arg) (hboxed : ∀ arg ∈ args, ¬IsPrimitive arg) :
      IsJavaType (name ++ "<" ++ ", ".intercalate args ++ ">")

end TypeText

namespace Java.TypeExpr

open TypeText

/-- A primitive type. -/
def isPrimitive : TypeExpr → Bool
  | prim _ => true
  | _ => false

/-- Names that may stand for types, with arguments that are canonical and no primitive types. -/
inductive IsCanonical : TypeExpr → Prop
  | prim (p : Primitive) : IsCanonical (.prim p)
  | named {name : String} (hname : IsTypeName name) (hother : ¬IsPrimitive name) :
      IsCanonical (.named name)
  | applied {name : String} {args : List TypeExpr} (hname : isQualifiedName name.toList = true)
      (hargs : ∀ arg ∈ args, IsCanonical arg) (hboxed : ∀ arg ∈ args, arg.isPrimitive = false) :
      IsCanonical (.applied name args)

/-- A canonical type is printed as the keyword of a primitive type only if it is one. -/
theorem IsCanonical.isPrimitive_of_print {type : TypeExpr} (h : type.IsCanonical)
    (hprint : IsPrimitive type.print) : type.isPrimitive = true := by
  cases h with
  | prim p => rfl
  | named hname hother =>
    rw [print] at hprint
    exact absurd hprint hother
  | @applied name args hname hargs hboxed =>
    obtain ⟨p, hp⟩ := hprint
    have hopen : '<' ∈ p.keyword.toList := by rw [← hp, print]; simp
    cases p <;> exact absurd hopen (by decide)

/-- A canonical type is printed as a Java type. -/
theorem IsCanonical.isJavaType_print {type : TypeExpr} (h : type.IsCanonical) :
    IsJavaType type.print := by
  induction h with
  | prim p =>
    rw [print]
    exact .primitive p
  | named hname hother =>
    rw [print]
    exact .name hname
  | @applied name args hname hargs hboxed ih =>
    rw [print]
    refine .applied hname (fun text htext => ?_) (fun text htext hprimitive => ?_)
    · obtain ⟨arg, harg, rfl⟩ := List.mem_map.1 htext
      exact ih arg harg
    · obtain ⟨arg, harg, rfl⟩ := List.mem_map.1 htext
      have hother := hboxed arg harg
      rw [(hargs arg harg).isPrimitive_of_print hprimitive] at hother
      cases hother

/-! ## Canonical types -/

/-- The wrapper of a primitive type is canonical. -/
theorem isCanonical_wrapper (p : Primitive) : (named p.wrapper).IsCanonical := by
  refine .named ⟨?_, ?_, ?_⟩ ?_
  · cases p <;> decide
  · cases p <;> decide
  · intro c hc
    cases p <;> cases hc
  · cases p <;> decide

/-- Text is canonical. -/
theorem isCanonical_text : text.IsCanonical :=
  .named ⟨by decide, by decide, fun c hc => by cases hc⟩ (by decide)

/-- An object is canonical. -/
theorem isCanonical_object : object.IsCanonical :=
  .named ⟨by decide, by decide, fun c hc => by cases hc⟩ (by decide)

namespace IsCanonical

section
variable {type element key value : TypeExpr}

/-- A list of canonical types other than the primitive ones is canonical. -/
theorem list (h : element.IsCanonical) (hboxed : element.isPrimitive = false) :
    (TypeExpr.list element).IsCanonical :=
  .applied (by decide) (by simpa using h) (by simpa using hboxed)

/-- A map between canonical types other than the primitive ones is canonical. -/
theorem map (hkey : key.IsCanonical) (hvalue : value.IsCanonical)
    (hkeyBoxed : key.isPrimitive = false) (hvalueBoxed : value.isPrimitive = false) :
    (TypeExpr.map key value).IsCanonical :=
  .applied (by decide) (by simpa using ⟨hkey, hvalue⟩) (by simpa using ⟨hkeyBoxed, hvalueBoxed⟩)

/-- The wrapper of a canonical type is canonical. -/
theorem boxed (h : type.IsCanonical) : type.boxed.IsCanonical := by
  cases type with
  | prim p => exact isCanonical_wrapper p
  | named name => exact h
  | applied name args => exact h

/-- A canonical type stays canonical where its values may be missing. -/
theorem boxedIf (h : type.IsCanonical) (optional : Bool) : (type.boxedIf optional).IsCanonical := by
  unfold TypeExpr.boxedIf
  split
  · exact h.boxed
  · exact h

end

end IsCanonical

/-- What an object literal becomes is canonical. -/
theorem isCanonical_record : record.IsCanonical :=
  isCanonical_text.map isCanonical_object rfl rfl

/-- A wrapper is no primitive type. -/
theorem isPrimitive_boxed (type : TypeExpr) : type.boxed.isPrimitive = false := by
  cases type <;> rfl

end Java.TypeExpr

namespace TypeText

open TypeExpr

/-! ## Readings -/

/-- The types that a reading settles are canonical, and so is the name that it gives arguments. -/
def Reading.IsCanonical : Reading → Prop
  | settled type => type.IsCanonical
  | applied name _ => isQualifiedName name = true
  | _ => True

section
variable {cs : List Char}

/-- A word of the source language, a single capital letter and the keyword of a primitive type denote
something on their own. -/
theorem isSome_simpleType? {name : String}
    (h : name ∈ sourceWords ∨ (∃ c, name.toList = [c] ∧ 'A' ≤ c ∧ c ≤ 'Z') ∨ IsPrimitive name) :
    (simpleType? name.toList).isSome = true := by
  rcases h with hword | ⟨c, hname, hcapital⟩ | ⟨p, rfl⟩
  · simp only [sourceWords, List.mem_cons, List.not_mem_nil, or_false] at hword
    rcases hword with rfl | rfl | rfl | rfl | rfl | rfl | rfl | rfl | rfl | rfl | rfl <;> rfl
  · have hletter : (decide ('A' ≤ c) && decide (c ≤ 'Z')) = true := by simpa using hcapital
    rw [hname, simpleType?]
    simp only [hletter, if_true]
    repeat' split
    all_goals rfl
  · cases p <;> rfl

/-- Nothing but these words, letters and keywords, numbers and what begins with an operator denotes something
on its own. -/
theorem simpleType?_eq_none (hword : ∀ word ∈ sourceWords, word.toList ≠ cs)
    (hcapital : ∀ c, cs = [c] → ¬('A' ≤ c ∧ c ≤ 'Z')) (hprimitive : ¬IsPrimitive (String.ofList cs))
    (hnumber : isNumber cs = false) (hoperator : typeOperators.any (·.toList.isPrefixOf cs) = false) :
    simpleType? cs = none := by
  have hnoneOf : ∀ words : List String, (∀ word ∈ words, word ∈ sourceWords ∨ IsPrimitive word) →
      isOneOf words cs = false := by
    intro words hwords
    rw [isOneOf, List.any_eq_false]
    intro word hmem heq
    have hspelled : word.toList = cs := eq_of_beq heq
    rcases hwords word hmem with hsource | hkeyword
    · exact hword word hsource hspelled
    · rw [← hspelled, String.ofList_toList] at hprimitive
      exact hprimitive hkeyword
  have hkeyword : Primitive.ofKeyword? (String.ofList cs) = none := by
    rw [isPrimitive_iff, Bool.not_eq_true, Option.isSome_eq_false_iff, Option.isNone_iff_eq_none] at hprimitive
    exact hprimitive
  unfold simpleType?
  rw [hnoneOf ["string"] (by decide), hnoneOf ["number"] (by decide), hnumber,
    hnoneOf ["boolean", "true", "false"] (by decide), hnoneOf opaqueKeywords (by decide),
    hnoneOf ["object"] (by decide), hkeyword, hoperator]
  simp only [Bool.false_eq_true, Bool.or_false, if_false]
  split
  · next c => rw [if_neg (by simpa using hcapital c rfl)]
  · rfl

/-- A qualified name that denotes nothing on its own may stand for a type. -/
theorem isCanonical_named (h : simpleType? cs = none) (hqualified : isQualifiedName cs = true) :
    (named (String.ofList cs)).IsCanonical := by
  have hnone : (simpleType? (String.ofList cs).toList).isSome = false := by
    rw [String.toList_ofList, h]
    rfl
  refine .named ⟨?_, fun hword => ?_, fun c hc hcapital => ?_⟩ fun hprimitive => ?_
  · rw [String.toList_ofList]
    exact hqualified
  · rw [isSome_simpleType? (.inl hword)] at hnone
    cases hnone
  · rw [isSome_simpleType? (.inr (.inl ⟨c, hc, hcapital⟩))] at hnone
    cases hnone
  · rw [isSome_simpleType? (.inr (.inr hprimitive))] at hnone
    cases hnone

/-- The name of a generic type is a qualified name. -/
theorem isQualifiedName_of_generic? {base : List Char} {args : List (List Char)}
    (h : generic? cs = some (base, args)) : isQualifiedName base = true := by
  simp only [generic?] at h
  split at h
  · next hcond =>
    cases h
    simp only [Bool.and_eq_true] at hcond
    exact hcond.1.2
  · cases h

/-- Whatever a text reads as, what is settled is canonical. -/
theorem ReadsAs.isCanonical {reading : Reading} (h : ReadsAs cs reading) : reading.IsCanonical := by
  cases h with
  | text => exact isCanonical_text
  | object => exact isCanonical_object
  | record => exact isCanonical_record
  | listOfObjects => exact isCanonical_object.list rfl
  | primitive => exact .prim _
  | named hsimple hqualified => exact isCanonical_named hsimple hqualified
  | readonly | argument | brackets | array | map => trivial
  | applied h => exact isQualifiedName_of_generic? h

end

/-! ## The mapped type -/

/-- Any type text is mapped to a canonical type, and to no primitive one if the value may be missing. -/
theorem isCanonical_javaType (optional : Bool) (raw : List Char) :
    (javaType optional raw).IsCanonical ∧
      (optional = true → (javaType optional raw).isPrimitive = false) := by
  have hread := (ReadsAs.read (normalize raw)).isCanonical
  have hpiece : ∀ piece ∈ (read (normalize raw)).pieces, ∀ optional,
      (javaType optional piece).IsCanonical ∧
        (optional = true → (javaType optional piece).isPrimitive = false) := by
    intro piece hmem optional
    have hlength : piece.length < raw.length := length_lt_of_mem_pieces hmem
    exact isCanonical_javaType optional piece
  rw [javaType_eq]
  generalize read (normalize raw) = reading at hread hpiece
  cases reading with
  | settled type =>
    refine ⟨hread.boxedIf optional, fun hoptional => ?_⟩
    rw [hoptional, Reading.type, boxedIf, if_pos rfl, isPrimitive_boxed]
  | same absent piece =>
    have hsame := hpiece piece (List.mem_singleton_self _) (optional || absent)
    exact ⟨hsame.1, fun hoptional => hsame.2 (by rw [hoptional, Bool.true_or])⟩
  | listOf piece =>
    have helement := hpiece piece (List.mem_singleton_self _) false
    exact ⟨helement.1.boxed.list (isPrimitive_boxed _), fun _ => rfl⟩
  | mapOf key value =>
    have hkey := hpiece key List.mem_cons_self true
    cases value with
    | none => exact ⟨hkey.1.map isCanonical_object (hkey.2 rfl) rfl, fun _ => rfl⟩
    | some value =>
      have hvalue := hpiece value (List.mem_cons_of_mem _ (List.mem_singleton_self _)) true
      exact ⟨hkey.1.map hvalue.1 (hkey.2 rfl) (hvalue.2 rfl), fun _ => rfl⟩
  | applied name args =>
    have hname : isQualifiedName (String.ofList name).toList = true := by
      rw [String.toList_ofList]
      exact hread
    exact ⟨.applied hname (List.forall_mem_map.2 fun arg harg => (hpiece arg harg true).1)
      (List.forall_mem_map.2 fun arg harg => (hpiece arg harg true).2 rfl), fun _ => rfl⟩
termination_by raw.length

/-- Whatever type text a member is declared with, without a hint its type is the text of a Java type, and
not that of a primitive one if the member is optional. -/
theorem isJavaType_javaTypeText (optional : Bool) (raw : Option String) :
    IsJavaType (javaTypeText optional none raw) ∧
      ¬(optional = true ∧ IsPrimitive (javaTypeText optional none raw)) := by
  obtain ⟨hcanonical, hboxed⟩ := isCanonical_javaType optional (raw.getD "").toList
  refine ⟨hcanonical.isJavaType_print, fun ⟨hoptional, hprimitive⟩ => ?_⟩
  have hother := hboxed hoptional
  rw [hcanonical.isPrimitive_of_print hprimitive] at hother
  cases hother

end TypeText

end BeanGen
