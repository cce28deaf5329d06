import BeanGen.Text.Blank
import BeanGen.Text.Digit
import BeanGen.Text.Slice
import BeanGen.Text.WordChar
import BeanGen.Java.Name
import BeanGen.Java.TypeExpr
import BeanGen.TypeText.Nesting
import BeanGen.TypeText.Normal

/-!
# From type text to Java types

`javaType` reads the text of a type of the source language and gives the Java type of the values.
The rules are tried in a fixed order and the first that applies decides; text that no rule
understands becomes `Object`. Unions, intersections and arrays are recognised at the top level of the
text only, so `A | B[]` is a union and `Array<'a' | 'b'>` an array.
-/

namespace BeanGen.TypeText

open Text Java

/-- The segments of a qualified name: letters, digits, `_` and `$`, the first one no digit and no
letter outside ASCII. -/
def isQualifiedName (cs : List Char) : Bool :=
  (splitOn '.' cs).all fun segment =>
    match segment with
    | [] => false
    | c :: rest => isNameStart c && rest.all fun d => isWordChar d || d == '$'

/-- A number in decimal notation. -/
def isNumber (cs : List Char) : Bool :=
  let digits := if cs.head? == some '-' then cs.drop 1 else cs
  let whole := digits.takeWhile isDecimal
  !whole.isEmpty &&
    match digits.dropWhile isDecimal with
    | [] => true
    | '.' :: fraction => !fraction.isEmpty && fraction.all isDecimal
    | _ => false

/-- First and last character are one and the same quotation mark out of `marks`. -/
def isQuotedBy (marks : List Char) (cs : List Char) : Bool :=
  match cs with
  | c :: rest => marks.contains c && rest.getLast? == some c
  | [] => false

/-- A string literal. -/
def isStringLiteral (cs : List Char) : Bool :=
  isQuotedBy ['\'', '"'] cs

/-- A template literal. -/
def isTemplate (cs : List Char) : Bool :=
  isQuotedBy ['\x60'] cs

/-- An alternative that leaves a union a union of texts. -/
def isTextLike (cs : List Char) : Bool :=
  let inner := unwrapParens (trim cs)
  ["string", "null", "undefined"].any (·.toList == inner) || isQuotedBy quotes inner

/-- Name and arguments of a generic type that spans the whole text. Blank arguments are left out. -/
def generic? (cs : List Char) : Option (List Char × List (List Char)) :=
  let base := trim (before '<' cs)
  let args := cs.dropWhile (· != '<')
  if cs.head? != some '<' && cs.getLast? == some '>' && isQualifiedName base && closesAtEnd args then
    some (base, ((splitTop ',' (args.drop 1).dropLast).map trim).filter (!·.isEmpty))
  else none

/-- An argument is shorter than the generic type it stands in. -/
theorem length_lt_of_generic? {cs base : List Char} {args : List (List Char)}
    (h : generic? cs = some (base, args)) {arg : List Char} (harg : arg ∈ args) :
    arg.length < cs.length := by
  simp only [generic?] at h
  split at h
  · rename_i hcond
    obtain ⟨-, rfl⟩ := by simpa using h
    obtain ⟨harg, -⟩ := List.mem_filter.1 harg
    obtain ⟨piece, hpiece, rfl⟩ := List.mem_map.1 harg
    have h₁ := length_trim_le piece
    have h₂ := length_le_of_mem_splitTop hpiece
    have h₃ := (List.dropWhile_suffix (l := cs) (· != '<')).length_le
    have h₄ : cs ≠ [] := by
      rintro rfl
      simp at hcond
    have h₅ := List.length_pos_iff.2 h₄
    simp at h₂
    omega
  · simp at h

/-- Generic types that stand for their argument. -/
def transparentGenerics : List String :=
  ["Readonly", "Required", "NonNullable", "Awaited", "Promise"]

/-- Generic types that pick members out of another type. -/
def shapeGenerics : List String := ["Pick", "Omit"]

/-- Generic names of arrays. -/
def arrayGenerics : List String := ["Array", "ReadonlyArray"]

/-- Generic names of maps. -/
def mapGenerics : List String := ["Map", "Record"]

/-- Keywords that say nothing about a value. -/
def opaqueKeywords : List String :=
  ["any", "unknown", "null", "undefined", "void", "never"]

/-- Operators that compute a type from another. -/
def typeOperators : List String := ["import(", "typeof ", "keyof "]

/-- The name is one of the listed ones. -/
def isOneOf (names : List String) (cs : List Char) : Bool :=
  names.any (·.toList == cs)

/-- The type that a text without any structure denotes: a keyword, a number, or nothing known. -/
def simpleType? (cs : List Char) : Option TypeExpr :=
  if isOneOf ["string"] cs then some .text
  else if isOneOf ["number"] cs || isNumber cs then some (.prim .double)
  else if isOneOf ["boolean", "true", "false"] cs then some (.prim .boolean)
  else if isOneOf opaqueKeywords cs then some .object
  else if isOneOf ["object"] cs then some .record
  else match Primitive.ofKeyword? (String.ofList cs) with
    | some p => some (.prim p)
    | none =>
      if (match cs with | [c] => 'A' ≤ c && c ≤ 'Z' | _ => false) then some .object
      else if typeOperators.any (·.toList.isPrefixOf cs) then some .object
      else none

/-- How a piece of type text reads: a type that is settled, or one that is put together from the
types of shorter pieces. -/
inductive Reading where
  /-- The type is known. -/
  | settled (type : TypeExpr)
  /-- The type is that of the piece; `absent` says that its values may be missing. -/
  | same (absent : Bool) (piece : List Char)
  /-- A list of what the piece describes. -/
  | listOf (piece : List Char)
  /-- A map from what the first piece describes to what the second does, if there is one. -/
  | mapOf (key : List Char) (value : Option (List Char))
  /-- A generic type of the source language, kept with its arguments. -/
  | applied (name : List Char) (args : List (List Char))
  deriving Repr

/-- The pieces that a reading refers to. -/
def Reading.pieces : Reading → List (List Char)
  | settled _ => []
  | same _ piece => [piece]
  | listOf piece => [piece]
  | mapOf key value => key :: value.toList
  | applied _ args => args

/-- Reads type text that is neither union nor intersection: arrays, maps and literals. -/
def readStructure? (generic : Option (List Char × List (List Char))) (cs : List Char) :
    Option Reading :=
  if "[]".toList.isSuffixOf cs then some (.listOf (cs.dropLast.dropLast))
  else match generic with
    | some (base, args) =>
      if isOneOf arrayGenerics base then
        match args with
        | element :: _ => some (.listOf element)
        | [] => some (.settled (.list .object))
      else if isOneOf mapGenerics base then
        match args with
        | key :: rest => some (.mapOf key rest.head?)
        | [] => some (.settled .record)
      else if isStringLiteral cs then some (.settled .text)
      else none
    | none => if isStringLiteral cs then some (.settled .text) else none

/-- Reads type text that is no array, map or union: keywords, generic types and names. -/
def readName (generic : Option (List Char × List (List Char))) (cs : List Char) : Reading :=
  match simpleType? cs with
  | some type => .settled type
  | none =>
    match generic with
    | some (base, args) =>
      if isOneOf shapeGenerics base then .settled .record else .applied base args
    | none => .settled (if isQualifiedName cs then .named (String.ofList cs) else .object)

/-- Reads type text whose outermost generic type, if any, does not stand for its argument. -/
def readPlain (generic : Option (List Char × List (List Char))) (cs : List Char) : Reading :=
  if isTemplate cs then .settled .text
  else if hasTopArrow cs then .settled .object
  else if cs.head? == some '[' && closesAtEnd cs then .settled (.list .object)
  else if 1 < (splitTop '|' cs).length then
    .settled <|
      if ((splitTop '|' cs).filter (!allBlank ·)).all isTextLike then .text else .object
  else if 1 < (splitTop '&' cs).length then .settled .object
  else (readStructure? generic cs).getD (readName generic cs)

/-- Reads normalised type text. -/
def read (cs : List Char) : Reading :=
  if cs.isEmpty then .settled .object
  else if cs.head? == some '\x7b' && closesAtEnd cs then .settled .record
  else if "readonly ".toList.isPrefixOf cs then .same false (cs.drop 9)
  else
    let generic := generic? cs
    match generic with
    | some (base, arg :: _) =>
      if isOneOf ["Partial"] base then .same true arg
      else if isOneOf transparentGenerics base then .same false arg
      else readPlain generic cs
    | _ => readPlain generic cs

/-- A generic name that the mapping keeps. Those of lists, maps and parts of shapes it replaces, and those
that stand for their argument it takes away, if there is one. -/
structure KeepsGeneric (name : List Char) (bare : Bool) : Prop where
  notArray : isOneOf arrayGenerics name = false
  notMap : isOneOf mapGenerics name = false
  notShape : isOneOf shapeGenerics name = false
  notPartial : bare = false → isOneOf ["Partial"] name = false
  notTransparent : bare = false → isOneOf transparentGenerics name = false

/-- All that reading a text can come to, and what each reading takes from the text. -/
inductive ReadsAs (cs : List Char) : Reading → Prop
  | text : ReadsAs cs (.settled .text)
  | object : ReadsAs cs (.settled .object)
  | record : ReadsAs cs (.settled .record)
  | listOfObjects : ReadsAs cs (.settled (.list .object))
  | primitive {p : Primitive} (h : p = .double ∨ p = .boolean ∨ p.keyword = String.ofList cs) :
      ReadsAs cs (.settled (.prim p))
  | named (hsimple : simpleType? cs = none) (hqualified : isQualifiedName cs = true) :
      ReadsAs cs (.settled (.named (String.ofList cs)))
  | readonly {piece : List Char} (h : cs = "readonly ".toList ++ piece) : ReadsAs cs (.same false piece)
  | argument {base arg : List Char} {args : List (List Char)} (h : generic? cs = some (base, arg :: args))
      (absent : Bool) : ReadsAs cs (.same absent arg)
  | brackets {element : List Char} (h : cs = element ++ "[]".toList) : ReadsAs cs (.listOf element)
  | array {base element : List Char} {args : List (List Char)}
      (h : generic? cs = some (base, element :: args)) : ReadsAs cs (.listOf element)
  | map {base key : List Char} {args : List (List Char)} (h : generic? cs = some (base, key :: args)) :
      ReadsAs cs (.mapOf key args.head?)
  | applied {base : List Char} {args : List (List Char)} (h : generic? cs = some (base, args))
      (hkept : KeepsGeneric base args.isEmpty) : ReadsAs cs (.applied base args)

namespace ReadsAs

section
variable {cs : List Char}

/-- A text without structure reads as a type of the mapping, or as the primitive type that it names. -/
theorem of_simpleType? {type : TypeExpr} (h : simpleType? cs = some type) : ReadsAs cs (.settled type) := by
  unfold simpleType? at h
  split at h
  · cases h
    exact .text
  split at h
  · cases h
    exact .primitive (.inl rfl)
  split at h
  · cases h
    exact .primitive (.inr (.inl rfl))
  split at h
  · cases h
    exact .object
  split at h
  · cases h
    exact .record
  split at h
  · next p hkeyword =>
    cases h
    exact .primitive (.inr (.inr (by simpa using List.find?_some hkeyword)))
  · -- a letter for a type and an operator say nothing of the values
    obtain rfl : type = .object := by grind
    exact .object

/-- Arrays, maps and literals. -/
theorem of_readStructure? {reading : Reading} (h : readStructure? (generic? cs) cs = some reading) :
    ReadsAs cs reading := by
  unfold readStructure? at h
  split at h
  · next hsuffix =>
    cases h
    obtain ⟨element, rfl⟩ := List.isSuffixOf_iff_suffix.1 hsuffix
    have helement : (element ++ "[]".toList).dropLast.dropLast = element := by simp
    rw [helement]
    exact .brackets rfl
  split at h
  · next base args hgeneric =>
    split at h
    · split at h
      · cases h
        exact .array hgeneric
      · cases h
        exact .listOfObjects
    split at h
    · split at h
      · cases h
        exact .map hgeneric
      · cases h
        exact .record
    split at h
    · cases h
      exact .text
    · cases h
  · split at h
    · cases h
      exact .text
    · cases h

/-- A generic name that no rule for structures takes is that of no array and no map. -/
theorem notArray_and_notMap {base : List Char} {args : List (List Char)} (hgeneric : generic? cs = some (base, args))
    (h : readStructure? (generic? cs) cs = none) :
    isOneOf arrayGenerics base = false ∧ isOneOf mapGenerics base = false := by
  rw [hgeneric] at h
  unfold readStructure? at h
  split at h
  · cases h
  dsimp only at h
  split at h
  · split at h <;> cases h
  next harray =>
    split at h
    · split at h <;> cases h
    next hmap => exact ⟨Bool.not_eq_true _ ▸ harray, Bool.not_eq_true _ ▸ hmap⟩

/-- Keywords, names and generic types that stand for none of their arguments. -/
theorem of_readName (hstructure : readStructure? (generic? cs) cs = none)
    (hgeneric : ∀ base args, generic? cs = some (base, args) → args.isEmpty = false →
      isOneOf ["Partial"] base = false ∧ isOneOf transparentGenerics base = false) :
    ReadsAs cs (readName (generic? cs) cs) := by
  unfold readName
  split
  · next htype => exact of_simpleType? htype
  next hsimple =>
    split
    · next base args hfound =>
      split
      · exact .record
      next hshape =>
        obtain ⟨harray, hmap⟩ := notArray_and_notMap hfound hstructure
        rw [Bool.not_eq_true] at hshape
        exact .applied hfound ⟨harray, hmap, hshape, fun hbare => (hgeneric base args hfound hbare).1,
          fun hbare => (hgeneric base args hfound hbare).2⟩
    · split
      · next hqualified => exact .named hsimple hqualified
      · exact .object

/-- Text whose outermost generic type does not stand for its argument. -/
theorem of_readPlain (hgeneric : ∀ base args, generic? cs = some (base, args) → args.isEmpty = false →
      isOneOf ["Partial"] base = false ∧ isOneOf transparentGenerics base = false) :
    ReadsAs cs (readPlain (generic? cs) cs) := by
  unfold readPlain
  split
  · exact .text
  split
  · exact .object
  split
  · exact .listOfObjects
  split
  · split
    · exact .text
    · exact .object
  split
  · exact .object
  · cases hstructure : readStructure? (generic? cs) cs with
    | none => exact of_readName hstructure hgeneric
    | some reading => exact of_readStructure? hstructure

end

/-- Whatever the text is, its reading is one of these. -/
theorem read (cs : List Char) : ReadsAs cs (TypeText.read cs) := by
  unfold TypeText.read
  split
  · exact .object
  split
  · exact .record
  split
  · next hreadonly =>
    obtain ⟨piece, rfl⟩ := List.isPrefixOf_iff_prefix.1 hreadonly
    exact .readonly rfl
  dsimp only
  split
  · next base arg args hfound =>
    split
    · exact .argument hfound true
    next hpartial =>
      split
      · exact .argument hfound false
      next htransparent =>
        rw [Bool.not_eq_true] at hpartial htransparent
        refine of_readPlain fun other args hother _ => ?_
        rw [hfound] at hother
        cases hother
        exact ⟨hpartial, htransparent⟩
  · next hbare =>
    refine of_readPlain fun base args hfound hargs => ?_
    cases args with
    | nil => cases hargs
    | cons arg args => exact absurd hfound (hbare base arg args)

/-- The pieces of a reading are shorter than the text. -/
theorem length_lt {cs piece : List Char} {reading : Reading} (h : ReadsAs cs reading)
    (hpiece : piece ∈ reading.pieces) : piece.length < cs.length := by
  cases h with
  | text | object | record | listOfObjects | primitive | named => cases hpiece
  | readonly h =>
    rw [List.mem_singleton.1 hpiece, h, List.length_append]
    exact Nat.lt_add_of_pos_left (by decide)
  | brackets h =>
    rw [List.mem_singleton.1 hpiece, h, List.length_append]
    exact Nat.lt_add_of_pos_right (by decide)
  | argument h | array h =>
    exact length_lt_of_generic? h (List.mem_singleton.1 hpiece ▸ List.mem_cons_self)
  | map h =>
    refine length_lt_of_generic? h (List.mem_cons.2 ((List.mem_cons.1 hpiece).imp_right fun hvalue => ?_))
    exact List.mem_of_mem_head? (Option.mem_toList.1 hvalue)
  | applied h => exact length_lt_of_generic? h hpiece

end ReadsAs

/-- Every piece of a reading is shorter than the text. -/
theorem length_lt_of_mem_pieces_read {cs piece : List Char} (h : piece ∈ (read cs).pieces) :
    piece.length < cs.length :=
  (ReadsAs.read cs).length_lt h

/-- The Java type of the values that a piece of type text describes. A value that may be missing
never has a primitive type. -/
def javaType (optional : Bool) (raw : List Char) : TypeExpr :=
  match _h : read (normalize raw) with
  | .settled type => type.boxedIf optional
  | .same absent piece => javaType (optional || absent) piece
  | .listOf piece => .list (javaType false piece).boxed
  | .mapOf key none => .map (javaType true key) .object
  | .mapOf key (some value) => .map (javaType true key) (javaType true value)
  | .applied name args =>
    .applied (String.ofList name) (args.attach.map fun ⟨arg, _⟩ => javaType true arg)
termination_by raw.length
decreasing_by
  all_goals
    refine Nat.lt_of_lt_of_le (length_lt_of_mem_pieces_read ?_) (length_normalize_le raw)
    simp_all [Reading.pieces]

/-- The text of the Java type of a declared member. An explicit hint decides alone; a member without
a type is an object. -/
def javaTypeText (optional : Bool) (hint : Option String) (raw : Option String) : String :=
  match hint.bind nonBlank? with
  | some type => type
  | none => (javaType optional (raw.getD "").toList).print

end BeanGen.TypeText
