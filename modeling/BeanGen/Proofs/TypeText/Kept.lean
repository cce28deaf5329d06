import BeanGen.Proofs.TypeText.Canonical

/-!
# Names that the mapping keeps

The names in the text of a type are its words (`IsNameIn`). For a printed type these are the names it is
put together from (`isNameIn_print_iff`). The mapping knows some names that are good anywhere: primitive
types, `String`, `Object`, and qualified names (`IsFixedName`). Any other name that a mapped type has is one
that the mapping found in the text, at whatever depth, and kept (`Keeps`). It asks no one whether the name
denotes anything (`mem_names_javaType_iff`).
-/

namespace BeanGen

open Text

/-! ## Names in the text of a type -/

/-- What a text mentions, a list of texts set off by commas mentions too. -/
theorem Text.Mentions.intercalate {name piece : List Char} {pieces : List (List Char)}
    (h : Mentions name piece) (hmem : piece ∈ pieces) :
    Mentions name (", ".toList.intercalate pieces) := by
  induction pieces with
  | nil => cases hmem
  | cons first rest ih =>
    cases rest with
    | nil =>
      rw [List.mem_singleton] at hmem
      rw [← hmem]
      simpa using h
    | cons next rest =>
      rw [intercalate_comma]
      rcases List.mem_cons.1 hmem with rfl | hrest
      · simpa using h.within [] (',' :: ' ' :: ", ".toList.intercalate (next :: rest)) (by simp)
          (by simp; decide)
      · simpa using (ih hrest).within (first ++ [',', ' ']) [] (by simp; decide) (by simp)

namespace TypeText

/-- A name in the text of a type: a word as long as it can be. -/
structure IsNameIn (type name : String) : Prop where
  ne_empty : name ≠ ""
  words : ∀ c ∈ name.toList, isWordPart c = true
  mentioned : Mentions name.toList type.toList

/-- A word is a plain name. -/
theorem IsNameIn.isPlain {type name : String} (h : IsNameIn type name) : IsPlain name.toList := by
  have hblank : ∀ c ∈ name.toList, isBlank c = false := by
    intro c hc
    rw [← Bool.not_eq_true]
    intro hblank
    have hword := h.words c hc
    rw [isWordPart_of_isBlank hblank] at hword
    cases hword
  refine ⟨by simpa using h.ne_empty, trim_of_forall hblank, fun c hc hmem => ?_⟩
  have hother : [ '<', '>', ',', '[', ']' ].any isWordPart = false := by decide
  have hword := h.words c hmem
  rw [List.any_eq_false] at hother
  exact hother c hc hword

end TypeText

namespace Java.TypeExpr

open TypeText

/-- A name with arguments is printed with these between angle brackets. -/
theorem toList_print_applied (name : String) (args : List TypeExpr) :
    (applied name args).print.toList =
      name.toList ++ '<' :: ", ".toList.intercalate (args.map fun arg => arg.print.toList) ++ ['>'] := by
  simp [print, Function.comp_def]

@[simp] theorem print_text : text.print = "String" := by
  rw [text, print]

@[simp] theorem print_object : object.print = "Object" := by
  rw [object, print]

/-- A type is printed with all its names. -/
theorem mentions_print {name : String} :
    ∀ type : TypeExpr, name ∈ type.names → Mentions name.toList type.print.toList
  | prim p, h => by
    rw [names, List.mem_singleton] at h
    rw [print, h]
    exact .refl _
  | named whole, h => by
    rw [names, List.mem_singleton] at h
    rw [print, h]
    exact .refl _
  | applied head args, h => by
    rw [toList_print_applied]
    rw [names] at h
    rcases List.mem_cons.1 h with rfl | hmem
    · simpa using (Mentions.refl name.toList).within []
        ('<' :: ", ".toList.intercalate (args.map fun arg => arg.print.toList) ++ ['>']) (by simp)
        (by simp; decide)
    · obtain ⟨arg, harg, hname⟩ := List.mem_flatMap.1 hmem
      have hjoined := (mentions_print arg hname).intercalate
        (List.mem_map_of_mem (f := fun arg => arg.print.toList) harg)
      simpa using hjoined.within (head.toList ++ ['<']) ['>'] (by simp; decide) (by simp; decide)

/-- The names of a canonical type are words. -/
theorem IsCanonical.words {type : TypeExpr} (h : type.IsCanonical) :
    ∀ name ∈ type.names, name ≠ "" ∧ ∀ c ∈ name.toList, isWordPart c = true := by
  have hqualified : ∀ name : String, isQualifiedName name.toList = true →
      name ≠ "" ∧ ∀ c ∈ name.toList, isWordPart c = true := by
    intro name hname
    refine ⟨?_, fun c hc => isWordPart_of_isQualifiedName hname hc⟩
    rintro rfl
    exact absurd hname (by decide)
  induction h with
  | prim p =>
    rw [names, List.forall_mem_singleton]
    exact hqualified _ (by cases p <;> decide)
  | named hname hother =>
    rw [names, List.forall_mem_singleton]
    exact hqualified _ hname.qualified
  | applied hname hargs hboxed ih =>
    rw [names, List.forall_mem_cons]
    refine ⟨hqualified _ hname, fun name hmem => ?_⟩
    obtain ⟨arg, harg, hmem⟩ := List.mem_flatMap.1 hmem
    exact ih arg harg name hmem

/-- The names in the text of a canonical type are those it is put together from. -/
theorem IsCanonical.isNameIn_print_iff {type : TypeExpr} (h : type.IsCanonical) {name : String} :
    IsNameIn type.print name ↔ name ∈ type.names := by
  constructor
  · intro hname
    have hmem := mem_names_of_mentions hname.isPlain type (fun atom hatom => (h.words atom hatom).2)
      hname.mentioned
    rwa [String.ofList_toList] at hmem
  · exact fun hmem => ⟨(h.words name hmem).1, (h.words name hmem).2, mentions_print type hmem⟩

end Java.TypeExpr

/-! ## Names from the text -/

namespace TypeText

open Java

/-- A name that is good in any registry: that of a primitive type, `String`, `Object` or a qualified
name. -/
def IsFixedName (name : String) : Prop :=
  IsPrimitive name ∨ name = "String" ∨ name = "Object" ∨ '.' ∈ name.toList

/-- The mapping keeps a name of the text: the text reads as the name, perhaps with type arguments, or it
keeps the name of a piece that it reads the text apart into. -/
inductive Keeps : List Char → String → Prop
  | here {raw : List Char} {name : String} (h : name ∈ (read (normalize raw)).names) : Keeps raw name
  | inside {raw piece : List Char} {name : String} (hpiece : piece ∈ (read (normalize raw)).pieces)
      (h : Keeps piece name) : Keeps raw name

/-- The names that a text keeps are those of its reading and those that the pieces keep. -/
theorem keeps_iff {raw : List Char} {name : String} :
    Keeps raw name ↔ name ∈ (read (normalize raw)).names ∨
      ∃ piece ∈ (read (normalize raw)).pieces, Keeps piece name := by
  constructor
  · intro h
    cases h with
    | here h => exact .inl h
    | inside hpiece h => exact .inr ⟨_, hpiece, h⟩
  · rintro (h | ⟨piece, hpiece, h⟩)
    · exact .here h
    · exact .inside hpiece h

/-- A text whose type is settled is mapped to this type. -/
theorem javaType_of_settled {optional : Bool} {raw : List Char} {type : TypeExpr}
    (h : read (normalize raw) = .settled type) : javaType optional raw = type.boxedIf optional := by
  rw [javaType_eq, h, Reading.type]

/-- Without a hint, the text of a type is printed as the type that it is mapped to. -/
theorem javaTypeText_ofList (optional : Bool) (cs : List Char) :
    javaTypeText optional none (some (String.ofList cs)) = (javaType optional cs).print := by
  rw [javaTypeText, Option.bind_none]
  dsimp only
  rw [Option.getD_some, String.toList_ofList]

section
variable {name : String} (hfixed : ¬IsFixedName name)
include hfixed

/-- Boxing changes fixed names only. -/
theorem mem_names_boxed_iff (type : TypeExpr) : name ∈ type.boxed.names ↔ name ∈ type.names := by
  cases type with
  | prim p =>
    rw [TypeExpr.boxed, TypeExpr.names, TypeExpr.names, List.mem_singleton, List.mem_singleton]
    refine iff_of_false ?_ fun h => hfixed (.inl ⟨p, h⟩)
    rintro rfl
    exact hfixed (.inr (.inr (.inr (by cases p <;> decide))))
  | named | applied => exact Iff.rfl

/-- A name that is good in no registry as such is one of the names of the mapped type exactly when the
mapping keeps it. -/
theorem mem_names_javaType_iff (optional : Bool) (raw : List Char) :
    name ∈ (javaType optional raw).names ↔ Keeps raw name := by
  have hpiece : ∀ piece ∈ (read (normalize raw)).pieces, ∀ optional,
      name ∈ (javaType optional piece).names ↔ Keeps piece name := by
    intro piece hmem optional
    have hlength : piece.length < raw.length := length_lt_of_mem_pieces hmem
    exact mem_names_javaType_iff optional piece
  have hlist : name ≠ "java.util.List" := fun h => hfixed (.inr (.inr (.inr (by rw [h]; decide))))
  have hmap : name ≠ "java.util.Map" := fun h => hfixed (.inr (.inr (.inr (by rw [h]; decide))))
  have hobject : name ≠ "Object" := fun h => hfixed (.inr (.inr (.inl h)))
  rw [keeps_iff, javaType_eq]
  generalize read (normalize raw) = reading at hpiece
  cases reading with
  | settled type =>
    rw [Reading.type, Reading.names, Reading.pieces, TypeExpr.boxedIf]
    simp only [List.not_mem_nil, false_and, exists_false, or_false]
    split
    · exact mem_names_boxed_iff hfixed type
    · exact Iff.rfl
  | same absent piece =>
    simp only [Reading.type, Reading.names, Reading.pieces, List.mem_singleton, List.not_mem_nil, false_or,
      exists_eq_left] at hpiece ⊢
    exact hpiece piece rfl _
  | listOf piece =>
    simp only [Reading.names, Reading.pieces, List.mem_singleton, List.not_mem_nil, false_or,
      exists_eq_left] at hpiece ⊢
    rw [Reading.type, TypeExpr.list, TypeExpr.names, List.mem_cons, List.flatMap_singleton,
      mem_names_boxed_iff hfixed, hpiece piece rfl]
    exact or_iff_right hlist
  | mapOf key value =>
    have hkey := hpiece key List.mem_cons_self true
    cases value with
    | none => simp [Reading.type, Reading.names, Reading.pieces, TypeExpr.map, TypeExpr.object, TypeExpr.names,
        hmap, hobject, hkey]
    | some value =>
      have hvalue := hpiece value (List.mem_cons_of_mem _ (List.mem_singleton_self _)) true
      simp [Reading.type, Reading.names, Reading.pieces, TypeExpr.map, TypeExpr.names, hmap, hkey, hvalue]
  | applied base args =>
    rw [Reading.type, TypeExpr.names, Reading.names, Reading.pieces, List.mem_cons, List.mem_singleton,
      List.flatMap_map, List.mem_flatMap]
    exact or_congr Iff.rfl (exists_congr fun arg => and_congr_right fun harg => hpiece arg harg true)
termination_by raw.length

end

end TypeText

end BeanGen
