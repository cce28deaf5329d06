import BeanGen.Proofs.TypeText.Boxing
import BeanGen.Proofs.TypeText.Printed

/-!
# Mapping mapped types

What the mapping gives is type text again: a declaration may name a Java type. The mapping reads it as the
type that it prints (`read_print`), so it maps its own results to themselves, boxed where values may be
missing (`javaType_print`, `javaTypeText_javaTypeText`). For this a mapped type must not be spelled with a
generic name that means something of its own, such as `Array` or `Promise`, which the mapping never leaves
in a type (`isSettled_javaType`).
-/

namespace BeanGen

open Java Text

namespace Java.TypeExpr

open TypeText

/-- The generic names of the type are such that the mapping keeps. -/
inductive IsSettled : TypeExpr → Prop
  | prim (p : Primitive) : IsSettled (.prim p)
  | named (name : String) : IsSettled (.named name)
  | applied {name : String} {args : List TypeExpr} (hname : KeepsGeneric name.toList args.isEmpty)
      (hargs : ∀ arg ∈ args, IsSettled arg) : IsSettled (.applied name args)

namespace IsSettled

section
variable {type element key value : TypeExpr}

theorem list (h : element.IsSettled) : (TypeExpr.list element).IsSettled :=
  .applied ⟨rfl, rfl, rfl, fun _ => rfl, fun _ => rfl⟩ (by simpa using h)

theorem map (hkey : key.IsSettled) (hvalue : value.IsSettled) : (TypeExpr.map key value).IsSettled :=
  .applied ⟨rfl, rfl, rfl, fun _ => rfl, fun _ => rfl⟩ (by simpa using ⟨hkey, hvalue⟩)

theorem boxed (h : type.IsSettled) : type.boxed.IsSettled := by
  cases h with
  | prim p => exact .named _
  | named name => exact .named name
  | applied hname hargs => exact .applied hname hargs

theorem boxedIf (h : type.IsSettled) (optional : Bool) : (type.boxedIf optional).IsSettled := by
  unfold TypeExpr.boxedIf
  split
  · exact h.boxed
  · exact h

end

end IsSettled

end Java.TypeExpr

namespace TypeText

open TypeExpr

/-! ## What readings leave -/

/-- The generic names that a reading settles are such that the mapping keeps. -/
def Reading.IsSettled : Reading → Prop
  | settled type => type.IsSettled
  | applied name args => KeepsGeneric name args.isEmpty
  | _ => True

/-- Whatever a text reads as, the generic names left are such that the mapping keeps. -/
theorem ReadsAs.isSettled {cs : List Char} {reading : Reading} (h : ReadsAs cs reading) : reading.IsSettled := by
  cases h with
  | text | object | named => exact .named _
  | record => exact .map (.named _) (.named _)
  | listOfObjects => exact .list (.named _)
  | primitive => exact .prim _
  | readonly | argument | brackets | array | map => trivial
  | applied _ hkept => exact hkept

/-- The generic names of a mapped type are such that the mapping keeps. -/
theorem isSettled_javaType (optional : Bool) (raw : List Char) : (javaType optional raw).IsSettled := by
  have hread := (ReadsAs.read (normalize raw)).isSettled
  have hpiece : ∀ piece ∈ (read (normalize raw)).pieces, ∀ optional, (javaType optional piece).IsSettled := by
    intro piece hmem optional
    have hlength : piece.length < raw.length := length_lt_of_mem_pieces hmem
    exact isSettled_javaType optional piece
  rw [javaType_eq]
  generalize read (normalize raw) = reading at hread hpiece
  cases reading with
  | settled type => exact TypeExpr.IsSettled.boxedIf hread optional
  | same absent piece => exact hpiece piece (List.mem_singleton_self _) _
  | listOf piece => exact (hpiece piece (List.mem_singleton_self _) false).boxed.list
  | mapOf key value =>
    have hkey := hpiece key List.mem_cons_self true
    cases value with
    | none => exact hkey.map (.named _)
    | some value => exact hkey.map (hpiece value (List.mem_cons_of_mem _ (List.mem_singleton_self _)) true)
  | applied name args =>
    refine .applied ?_ (List.forall_mem_map.2 fun arg harg => hpiece arg harg true)
    rw [String.toList_ofList, List.isEmpty_map]
    exact hread
termination_by raw.length

/-! ## Reading printed types -/

section
variable {type : TypeExpr} {name : String} {args : List TypeExpr}

/-- A text with a mark in it that does not occur in printed types begins no printed type, unless type
arguments come before the mark. -/
theorem not_isPrefixOf_print (h : type.IsCanonical) {front : List Char} (hangle : '<' ∉ front)
    (hmark : ∃ c ∈ front, isWordPart c = false) : front.isPrefixOf type.print.toList = false := by
  rw [← Bool.not_eq_true, List.isPrefixOf_iff_prefix]
  rintro ⟨back, hback⟩
  obtain ⟨rest, hprint, hrest⟩ := h.exists_print
  obtain ⟨c, hc, hpart⟩ := hmark
  have hnone := notMem_of_isQualifiedName h.isQualifiedName_head hpart
  rw [hprint, List.append_eq_append_iff] at hback
  rcases hback with ⟨between, hname, -⟩ | ⟨between, hfront, hbehind⟩
  · rw [hname] at hnone
    exact hnone (List.mem_append_left between hc)
  · cases between with
    | nil =>
      rw [hfront, List.append_nil] at hc
      exact hnone hc
    | cons d between =>
      rw [hbehind] at hrest
      obtain rfl := hrest d rfl
      exact hangle (by rw [hfront]; simp)

/-- A text that begins as a name does writes no number. -/
theorem isNumber_eq_false {c : Char} (h : isNameStart c = true) (cs : List Char) :
    isNumber (c :: cs) = false := by
  have hother := of_isNamePart (p := fun c => !isNameStart c || !isDecimal c && c != '-')
    (isNamePart_of_isNameStart h) (by decide)
  simp only [h, Bool.not_true, Bool.false_or, Bool.and_eq_true, Bool.not_eq_true', bne_iff_ne] at hother
  have hminus : ((c :: cs).head? == some '-') = false := by simpa using hother.2
  rw [isNumber, hminus]
  simp [hother.1]

/-- A canonical type that is no primitive one is printed as no word of the source language, and as no single
capital letter. -/
theorem print_isNoWord (h : type.IsCanonical) (hother : type.isPrimitive = false) :
    (∀ word ∈ sourceWords, word.toList ≠ type.print.toList) ∧
      ∀ c, type.print.toList = [c] → ¬('A' ≤ c ∧ c ≤ 'Z') := by
  cases h with
  | prim p => cases hother
  | @named name hname _ =>
    rw [print]
    refine ⟨fun word hmem heq => hname.notSourceWord ?_, hname.notCapital⟩
    rwa [← String.toList_inj.1 heq]
  | applied _ _ _ =>
    rw [toList_print_applied]
    refine ⟨fun word hmem heq => ?_, fun c heq => ?_⟩
    · have hnone : ∀ word ∈ sourceWords, '<' ∉ word.toList := by decide
      exact hnone word hmem (by rw [heq]; simp)
    · have hlength := congrArg List.length heq
      simp at hlength
      omega

/-- A canonical type that is no primitive one is printed with no word that has a meaning of its own. -/
theorem simpleType?_print (h : type.IsCanonical) (hother : type.isPrimitive = false) :
    simpleType? type.print.toList = none := by
  obtain ⟨hword, hcapital⟩ := print_isNoWord h hother
  refine simpleType?_eq_none hword hcapital (fun hprimitive => ?_) ?_ ?_
  · rw [String.ofList_toList] at hprimitive
    rw [h.isPrimitive_of_print hprimitive] at hother
    cases hother
  · obtain ⟨c, cs, hprint, hc⟩ := h.exists_print_eq_cons
    rw [hprint]
    exact isNumber_eq_false hc cs
  · rw [List.any_eq_false]
    intro operator hoperator
    rw [Bool.not_eq_true]
    simp only [typeOperators, List.mem_cons, List.not_mem_nil, or_false] at hoperator
    rcases hoperator with rfl | rfl | rfl
    · exact not_isPrefixOf_print h (by decide) ⟨'(', by decide, by decide⟩
    · exact not_isPrefixOf_print h (by decide) ⟨' ', by decide, by decide⟩
    · exact not_isPrefixOf_print h (by decide) ⟨' ', by decide, by decide⟩

/-- Text that does not end with a closing angle bracket is no generic type. -/
theorem generic?_of_getLast? {cs : List Char} (h : cs.getLast? ≠ some '>') : generic? cs = none := by
  have hlast : (cs.getLast? == some '>') = false := beq_eq_false_iff_ne.2 h
  simp [generic?, hlast]

/-- Text without a closing angle bracket is no generic type. -/
theorem generic?_of_notMem {cs : List Char} (h : '>' ∉ cs) : generic? cs = none :=
  generic?_of_getLast? fun hlast => h (List.mem_of_getLast? hlast)

/-- Text without a mark is not quoted by it. -/
theorem isQuotedBy_eq_false {marks cs : List Char} (h : ∀ c ∈ marks, c ∉ cs) : isQuotedBy marks cs = false := by
  cases cs with
  | nil => rfl
  | cons c cs =>
    have hfirst : marks.contains c = false := by
      rw [← Bool.not_eq_true, List.contains_iff_mem]
      exact fun hc => h c hc List.mem_cons_self
    rw [isQuotedBy, hfirst, Bool.false_and]

/-- A printed type is read by the name that it begins with. -/
theorem read_print_eq (h : type.IsCanonical)
    (hgeneric : ∀ base args, generic? type.print.toList = some (base, args) → KeepsGeneric base args.isEmpty) :
    read type.print.toList = readName (generic? type.print.toList) type.print.toList := by
  have hnone : ∀ c, isPrintedPart c = false → c ∉ type.print.toList := fun c hc => h.notMem_print hc
  have hempty : type.print.toList.isEmpty = false := by
    obtain ⟨c, cs, hprint, -⟩ := h.exists_print_eq_cons
    rw [hprint]
    rfl
  have hhead : ∀ c, isPrintedPart c = false → (type.print.toList.head? == some c) = false := by
    intro c hc
    rw [beq_eq_false_iff_ne]
    exact fun hhead => hnone c hc (List.mem_of_mem_head? hhead)
  have hreadonly : "readonly ".toList.isPrefixOf type.print.toList = false :=
    not_isPrefixOf_print h (by decide) ⟨' ', by decide, by decide⟩
  have htemplate : isTemplate type.print.toList = false :=
    isQuotedBy_eq_false fun c hc => hnone c (forall_eq_false_of_any rfl c hc)
  have hliteral : isStringLiteral type.print.toList = false :=
    isQuotedBy_eq_false fun c hc => hnone c (forall_eq_false_of_any rfl c hc)
  have harrow : hasTopArrow type.print.toList = false := by
    rw [hasTopArrow, List.any_eq_false]
    intro item hitem htop
    rw [Bool.and_eq_true, beq_iff_eq] at htop
    exact hnone '=' (by decide) (mem_of_mem_items hitem (by rw [htop.2]; exact List.mem_cons_self))
  have harray : "[]".toList.isSuffixOf type.print.toList = false := by
    rw [← Bool.not_eq_true, List.isSuffixOf_iff_suffix]
    exact fun hsuffix => hnone '[' (by decide) (hsuffix.subset (by decide))
  have hplain : readPlain (generic? type.print.toList) type.print.toList =
      readName (generic? type.print.toList) type.print.toList := by
    have hstructure : readStructure? (generic? type.print.toList) type.print.toList = none := by
      rw [readStructure?.eq_def, harray]
      cases hfound : generic? type.print.toList with
      | none => simp [hliteral]
      | some found =>
        obtain ⟨base, args⟩ := found
        have hkept := hgeneric base args hfound
        simp [hkept.notArray, hkept.notMap, hliteral]
    rw [readPlain, htemplate, harrow, hhead '[' (by decide), splitTop_of_notMem (hnone '|' (by decide)),
      splitTop_of_notMem (hnone '&' (by decide)), hstructure]
    rfl
  rw [read, hempty, hhead '\x7b' (by decide), hreadonly]
  simp only [Bool.false_and, Bool.false_eq_true, if_false]
  split
  · next base arg rest hfound =>
    have hkept := hgeneric base (arg :: rest) hfound
    rw [hkept.notPartial rfl, hkept.notTransparent rfl]
    exact hplain
  · exact hplain

/-- A printed type is read as itself, with the texts of its arguments. -/
theorem read_print (h : type.IsCanonical) (hsettled : type.IsSettled) :
    read (normalize type.print.toList) = match type with
      | .applied name args => .applied name.toList (args.map fun arg => arg.print.toList)
      | other => .settled other := by
  rw [h.normalize_print]
  cases hsettled with
  | prim p =>
    have hgeneric : generic? (TypeExpr.prim p).print.toList = none :=
      generic?_of_notMem (by rw [print]; cases p <;> decide)
    rw [read_print_eq h (by simp [hgeneric]), hgeneric, print]
    cases p <;> rfl
  | named name =>
    have hqualified : isQualifiedName name.toList = true := h.isQualifiedName_head
    have hgeneric : generic? (TypeExpr.named name).print.toList = none :=
      generic?_of_notMem (by rw [print]; exact notMem_of_isQualifiedName hqualified (by decide))
    rw [read_print_eq h (by simp [hgeneric]), readName.eq_def, simpleType?_print h rfl, hgeneric, print]
    simp only [hqualified, if_true, String.ofList_toList]
  | @applied name args hname hargs =>
    have hgeneric := h.generic?_print
    have hkept : ∀ base pieces, generic? (TypeExpr.applied name args).print.toList = some (base, pieces) →
        KeepsGeneric base pieces.isEmpty := by
      rintro base pieces hfound
      rw [hgeneric] at hfound
      cases hfound
      rwa [List.isEmpty_map]
    rw [read_print_eq h hkept, readName.eq_def, simpleType?_print h rfl, hgeneric]
    simp only [hname.notShape, Bool.false_eq_true, if_false]

/-- A text that reads as a generic type is mapped to it, with its arguments mapped. -/
theorem javaType_of_applied {optional : Bool} {raw name : List Char} {args : List (List Char)}
    (h : read (normalize raw) = .applied name args) :
    javaType optional raw = .applied (String.ofList name) (args.map (javaType true)) := by
  rw [javaType_eq, h, Reading.type]

/-- The mapping gives mapped types back, boxed where values may be missing. -/
theorem javaType_print (h : type.IsCanonical) (hsettled : type.IsSettled) (optional : Bool) :
    javaType optional type.print.toList = type.boxedIf optional := by
  induction h generalizing optional with
  | prim p => rw [javaType_of_settled (read_print (.prim p) hsettled)]
  | named hname hother => rw [javaType_of_settled (read_print (.named hname hother) hsettled)]
  | @applied name args hname hargs hboxed ih =>
    have hread := read_print (.applied hname hargs hboxed) hsettled
    cases hsettled with
    | applied _ hsettled =>
      -- arguments are no primitive types, so boxing them again changes nothing
      have hsame : (args.map fun arg => arg.print.toList).map (javaType true) = args := by
        rw [List.map_map]
        calc args.map (javaType true ∘ fun arg => arg.print.toList) = args.map id :=
              List.map_congr_left fun arg harg => by
                rw [Function.comp_apply, ih arg harg (hsettled arg harg) true]
                exact boxed_of_not_isPrimitive (hboxed arg harg)
          _ = args := List.map_id args
      rw [javaType_of_applied hread, String.ofList_toList, hsame]
      cases optional <;> rfl

/-- Mapping is idempotent: without a hint, the text of a mapped type is mapped to itself, boxed where values may
be missing. -/
theorem javaTypeText_javaTypeText (raw : Option String) (optional again : Bool) :
    javaTypeText again none (some (javaTypeText optional none raw)) =
      if again then boxText (javaTypeText optional none raw) else javaTypeText optional none raw := by
  have hcanonical := (isCanonical_javaType optional (raw.getD "").toList).1
  have hmapped := javaType_print hcanonical (isSettled_javaType optional (raw.getD "").toList) again
  rw [javaTypeText, javaTypeText]
  simp only [Option.bind_none, Option.getD_some]
  rw [hmapped, hcanonical.print_boxedIf]

end

end TypeText

end BeanGen
