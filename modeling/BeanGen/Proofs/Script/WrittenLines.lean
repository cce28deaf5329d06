import BeanGen.Proofs.Script.MemberLines

/-!
# Written lines

Written properties are lines of a body, with comments between their tokens (`spacedLine`) and without them
(`propertyLine`), and so is a property whose type is an object type with lines of its own (`nestedLine`).
-/

namespace BeanGen.Script

open Written (Name Property)

/-! ## Members -/

section
variable {steps depth : Nat} {cs k rest : List Char} {reader : Reader}

theorem separated?_gap (gap : Spaced.Gap) (k : List Char) : separated? (gap.text ++ ';' :: k) = some k := by
  have hhere : ahead .line (gap.text ++ ';' :: k) = ';' :: k := by
    rw [ahead_gap, ahead_cons (by decide)]
  rw [separated?, hhere]
  rfl

theorem looseMember?_spaced (property : Spaced.Property) (hcs : skip cs = skip (property.printed ++ k))
    (hsteps : (property.printed ++ k).length ≤ steps) (hdepth : property.printed.length ≤ depth) :
    looseMember? (readerWithin steps (depth + 1)) cs = some (property.source?, property.lineEnd ++ k) := by
  have hname := hcs.trans (skip_property property k)
  rw [looseMember?, member?_spaced property hname hsteps hdepth]
  simp only [Option.bind_eq_bind, Option.bind_some, whole?_spaced property _ hname, separated?_gap]
  rfl

theorem beginsMember_name {name : Name} (h : skip cs = name.chars ++ k) : BeginsMember cs := by
  obtain ⟨c, rest, hchars, -, hparts⟩ := isIdentifier_chars name
  refine ⟨c, rest ++ k, by rw [h, hchars]; rfl, fun hmem => ?_⟩
  have hpart := hparts c List.mem_cons_self
  simp only [List.mem_cons, List.not_mem_nil, or_false] at hmem
  rcases hmem with rfl | rfl | rfl | rfl <;> exact absurd hpart (by decide)

/-- A property on its line, with comments between its tokens. -/
def spacedLine (property : Spaced.Property) : MemberLine where
  text := property.printed
  property := property.source?
  tail := ⟨property.lineEnd, skip_lineEnd property⟩
  separated := true
  begins k := beginsMember_name (skip_property property k)
  reads hcs _ hsteps hdepth := looseMember?_spaced property hcs hsteps hdepth

/-- What is passed over behind the semicolon of a property. -/
def lineEnd (property : Property) : Trivia where
  text := property.lineEnd
  skip_append k := by rw [← lineEnd_spacedProperty, skip_lineEnd]

/-- A property on its line, with its pragma. -/
def propertyLine (property : Property) : MemberLine where
  text := property.printed
  property := some property.source
  tail := lineEnd property
  separated := true
  begins k := by
    rw [← printed_spacedProperty]
    exact (spacedLine (spacedProperty property)).begins k
  reads hcs hends hsteps hdepth := by
    have htail : (lineEnd property).text = (spacedProperty property).lineEnd := (lineEnd_spacedProperty property).symm
    rw [← printed_spacedProperty] at hcs hsteps hdepth
    rw [← source?_spacedProperty, htail]
    exact (spacedLine (spacedProperty property)).reads hcs hends hsteps hdepth

/-- The comment on the line of a property is its pragma. -/
theorem trailingComment?_pragma_lineEnd (property : Property) (k : List Char) :
    trailingComment? (';' :: (property.lineEnd ++ k)) = property.pragma.map Written.Pragma.printed := by
  rw [← lineEnd_spacedProperty, ← note?_spacedProperty]
  exact trailingComment?_lineEnd (spacedProperty property) k

end

/-! ## Members with members of their own -/

/-- A property whose type is an object type with one member a line. -/
structure NestedProperty where
  name : Name
  optional : Bool := false
  pragma : Option Written.Pragma := none
  /-- The rest of the line behind the opening brace. -/
  first : Trivia
  members : MemberLines
  /-- How far the closing brace is indented. -/
  close : Nat

namespace NestedProperty

/-- The property with a word for its type. -/
def outline (property : NestedProperty) : Property where
  name := property.name
  type := .predefined "object" (by decide)
  optional := property.optional
  pragma := property.pragma

/-- The type behind its opening brace, in front of `k`. -/
def inBraces (property : NestedProperty) (k : List Char) : List Char :=
  property.first.text ++ (linesText property.members.lines ++ ((Trivia.spaces property.close).text ++ '\x7d' :: k))

/-- The type. -/
def type (property : NestedProperty) : List Char :=
  '\x7b' :: property.inBraces []

/-- The property on its lines. -/
def printed (property : NestedProperty) : List Char :=
  ' ' :: ' ' :: property.name.chars ++ property.outline.colon ++ property.type ++ ';' :: property.outline.lineEnd

/-- The property with its type. -/
def kept (property : NestedProperty) : Source.Property :=
  { property.outline.source with
    type := String.ofList (Text.trim property.type)
    members := some (linesProperties property.members.lines) }

/-- The property as it is found in the script. One that mentions an import is not kept. -/
def source (property : NestedProperty) : Option Source.Property :=
  if hasGap property.type || Text.hasInfix "import(".toList (Text.trim property.type) then none
  else some property.kept

end NestedProperty

section
variable {steps depth : Nat} {cs k rest : List Char} {reader : Reader} {members : Option (List Source.Property)}

/-- An object type in front of a semicolon is a type. -/
theorem type?_braces (hbody : reader.read .objectType ('\x7b' :: cs) = some { rest := ';' :: rest, members }) :
    type? reader .line (' ' :: '\x7b' :: cs) = some { rest := ';' :: rest, members } := by
  have hskip : skip (' ' :: '\x7b' :: cs) = '\x7b' :: cs := rfl
  have hleads : atAnyMark ["|", "&"] ('\x7b' :: cs) = false := rfl
  have hoperand : operandType? reader .line ('\x7b' :: cs) = some ⟨{ rest := ';' :: rest, members }, true⟩ := by
    have hword : word? ('\x7b' :: cs) = none := rfl
    have hnumber : (number? ('\x7b' :: cs)).or (string? ('\x7b' :: cs)) = none := rfl
    rw [operandType?, hword]
    dsimp only
    rw [hnumber]
    dsimp only
    rw [hbody]
    rfl
  have hindexed : indexedType? reader .line (' ' :: '\x7b' :: cs) =
      some ⟨{ rest := ';' :: rest, members }, true⟩ := by
    have hindex : typeIndex? reader .line (';' :: rest) = none := rfl
    rw [indexedType?, hskip, hoperand]
    simp only [Option.bind_eq_bind, Option.bind_some, if_true, hindex]
    rfl
  have hfurther : furtherType? reader .line (';' :: rest) = none := rfl
  have hend : atOperator (ahead .line (';' :: rest)) = false := rfl
  rw [type?, hskip, hleads]
  simp only [Bool.false_eq_true, if_false, hindexed, Option.bind_eq_bind, Option.bind_some, hfurther, hend,
    Bool.and_false]
  rfl

variable (property : NestedProperty)

theorem inBraces_append (k : List Char) : property.inBraces [] ++ k = property.inBraces k := by
  simp [NestedProperty.inBraces]

/-- The text behind the name of the property. -/
def behindNestedName (k : List Char) : List Char :=
  property.outline.colon ++ '\x7b' :: property.inBraces (';' :: k)

theorem nested_append (k : List Char) : property.printed ++ k =
    ' ' :: ' ' :: (property.name.chars ++ behindNestedName property (property.outline.lineEnd ++ k)) := by
  simp [NestedProperty.printed, NestedProperty.type, NestedProperty.inBraces, behindNestedName]

theorem skip_nested (k : List Char) : skip (property.printed ++ k) =
    property.name.chars ++ behindNestedName property (property.outline.lineEnd ++ k) := by
  rw [nested_append]
  exact skip_append (isWord_chars property.name)

theorem ahead_behindNestedName (k : List Char) :
    endsWord (behindNestedName property k) = true ∧
      atMark "?" (ahead .line (behindNestedName property k)) = property.optional ∧
      ahead .line (if property.optional then skipMark "?" (behindNestedName property k)
        else behindNestedName property k) = ':' :: ' ' :: '\x7b' :: property.inBraces (';' :: k) := by
  rw [behindNestedName, Property.colon, NestedProperty.outline]
  cases property.optional <;> exact ⟨rfl, rfl, rfl⟩

/-- What is kept of the property. -/
theorem property?_nested (k : List Char) :
    property? none property.name.chars property.optional
        (' ' :: '\x7b' :: property.inBraces (';' :: (property.outline.lineEnd ++ k)))
        { rest := ';' :: (property.outline.lineEnd ++ k), members := some (linesProperties property.members.lines) }
        (';' :: (property.outline.lineEnd ++ k)) =
      if Text.hasInfix "import(".toList (Text.trim property.type) then none else some property.kept := by
  have hskip (cs : List Char) : skip (' ' :: '\x7b' :: cs) = '\x7b' :: cs := rfl
  have hcomment (cs : List Char) : firstComment? (' ' :: '\x7b' :: cs) = none := rfl
  have htext : textBefore (';' :: (property.outline.lineEnd ++ k))
      ('\x7b' :: property.inBraces (';' :: (property.outline.lineEnd ++ k))) = property.type := by
    have happ : '\x7b' :: property.inBraces (';' :: (property.outline.lineEnd ++ k)) =
        property.type ++ ';' :: (property.outline.lineEnd ++ k) := by
      rw [NestedProperty.type, List.cons_append, inBraces_append]
    rw [happ, textBefore_append]
  have hconst : (property.type == "const".toList) = false := rfl
  rw [property?, hcomment, hskip]
  simp only [htext, Option.getD_none, hconst, Option.isNone_none, Bool.and_false, Bool.or_false,
    trailingComment?_pragma_lineEnd, property.name.plainName_chars, Option.isSome_none, Bool.false_eq_true, if_false]
  refine if_congr Iff.rfl rfl (congrArg some ?_)
  cases hpragma : property.pragma with
  | none => simp [Property.source, NestedProperty.kept, NestedProperty.outline, hpragma]
  | some pragma =>
    simp [Property.source, NestedProperty.kept, NestedProperty.outline, hpragma, pragma.trim_printed,
      pragma.typeHint?_printed]

theorem whole?_nested {α : Type} (item : Option α)
    (hcs : skip cs = property.name.chars ++ behindNestedName property k) :
    whole? item (';' :: k) cs = if hasGap property.type then none else item := by
  have hcolon : hasGap property.outline.colon = false := by
    rw [Property.colon]
    split <;> rfl
  have htext : textBefore (';' :: k) (skip cs) =
      property.name.chars ++ (property.outline.colon ++ property.type) := by
    have happ : property.name.chars ++ behindNestedName property k =
        (property.name.chars ++ (property.outline.colon ++ property.type)) ++ ';' :: k := by
      simp [behindNestedName, NestedProperty.type, NestedProperty.inBraces]
    rw [hcs, happ, textBefore_append]
  rw [whole?, htext, Written.hasGap_append, Written.hasGap_append, property.name.hasGap_chars, hcolon]
  rfl

/-- The lines in the braces are shorter than the property. -/
theorem length_inBraces_nested (k : List Char) :
    (property.inBraces (';' :: (property.outline.lineEnd ++ k))).length < (property.printed ++ k).length ∧
      (linesText property.members.lines).length + 2 < property.printed.length := by
  have hlength : property.printed.length =
      (property.name.chars ++ behindNestedName property property.outline.lineEnd).length + 2 := by
    have h := congrArg List.length (nested_append property [])
    simpa using h
  rw [nested_append]
  simp only [behindNestedName, NestedProperty.inBraces, List.length_append, List.length_cons] at hlength ⊢
  omega

theorem looseMember?_nested (hcs : skip cs = skip (property.printed ++ k))
    (hsteps : (property.printed ++ k).length ≤ steps) (hdepth : property.printed.length ≤ depth) :
    looseMember? (readerWithin steps (depth + 1)) cs = some (property.source, property.outline.lineEnd ++ k) := by
  obtain ⟨hlonger, hinside⟩ := length_inBraces_nested property k
  obtain ⟨hends, hoptional, hcolon⟩ := ahead_behindNestedName property (property.outline.lineEnd ++ k)
  have hname := hcs.trans (skip_nested property k)
  obtain ⟨depth, rfl⟩ : ∃ n, depth = n + 2 := ⟨depth - 2, by omega⟩
  have hclose (k : List Char) : endsAt .line ('\n' :: ((Trivia.spaces property.close).text ++ '\x7d' :: k)) = true := by
    have hbreak : endsBehindBreak .line 0 ((Trivia.spaces property.close).text ++ '\x7d' :: k) = true := by
      induction property.close with
      | zero => rfl
      | succ count ih => exact ih
    exact hbreak
  have hbody : objectType? (readerWithin steps (depth + 1))
      ('\x7b' :: property.inBraces (';' :: (property.outline.lineEnd ++ k))) =
        some { rest := ';' :: (property.outline.lineEnd ++ k),
               members := some (linesProperties property.members.lines) } := by
    have hcount := length_lines_le property.members.lines
    rw [NestedProperty.inBraces] at hlonger ⊢
    rw [List.length_append] at hlonger
    exact objectType?_lines (.spaces property.close) (endAt_of_inOrder property.members.inOrder (hclose _))
      (by omega) (by omega) (by rw [List.length_append] at hlonger; omega)
  have hread : (readerWithin steps (depth + 2 + 1)).read (.type .line)
      (' ' :: '\x7b' :: property.inBraces (';' :: (property.outline.lineEnd ++ k))) =
        some { rest := ';' :: (property.outline.lineEnd ++ k),
               members := some (linesProperties property.members.lines) } := type?_braces hbody
  have hseparated (cs : List Char) : separated? (';' :: cs) = some cs := rfl
  rw [looseMember?, member?_of_skip hname hends, namedMember?, memberName?_of_skip hname hends]
  simp only [Option.bind_eq_bind, Option.bind_some, hoptional, hcolon, hread]
  have hkept := property?_nested property k
  simp only [hkept, hseparated, whole?_nested property _ hname, Option.pure_def, Option.bind_some]
  rw [NestedProperty.source]
  cases hasGap property.type <;> rfl

/-- A property on its lines, with the lines in its braces. -/
def nestedLine (property : NestedProperty) : MemberLine where
  text := property.printed
  property := property.source
  tail := lineEnd property.outline
  separated := true
  begins k := beginsMember_name (skip_nested property k)
  reads hcs _ hsteps hdepth := looseMember?_nested property hcs hsteps hdepth

end

end BeanGen.Script
