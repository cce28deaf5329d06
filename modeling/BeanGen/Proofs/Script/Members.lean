import BeanGen.Proofs.Script.Printed

/-!
# Reading written members

Each property stands on a line of its own, and the comment behind it belongs to it alone: it is passed
over when the next member is looked for (`skip_lineEnd`), and found behind the semicolon of the property
it follows (`trailingComment?_lineEnd`). A comment in front of a type is found in place of the type, and one
behind a type in place of the pragma (`property?_spaced`). Object types and classes have readers of their
own for their members; both find the same property (`member?_spaced`, `classMember?_spaced`).
-/

namespace BeanGen.Script

open Written (Name Pragma keywords)
open Spaced (Gap Property)

/-! ## The end of the line -/

section
variable {cs k : List Char}

theorem commentLength_line {text : List Char} (h : ∀ c ∈ text, breaksLine c = false) :
    commentLength ('/' :: '/' :: (text ++ '\n' :: cs)) = 2 + text.length := by
  have htake : (text ++ '\n' :: cs).takeWhile (!breaksLine ·) = text := by
    rw [List.takeWhile_append_of_pos fun c hc => by rw [h c hc]; rfl, List.takeWhile_cons_of_neg (by decide),
      List.append_nil]
  rw [commentLength, htake]

theorem exists_comment (pragma : Pragma) :
    ∃ text, pragma.printed = '/' :: '/' :: text ∧ ∀ c ∈ text, breaksLine c = false := by
  refine ⟨" javaType: ".toList ++ pragma.text.toList, rfl, fun c hc => ?_⟩
  rcases List.mem_append.1 hc with hc | hc
  · have hall : " javaType: ".toList.all (!breaksLine ·) = true := rfl
    simpa using List.all_eq_true.1 hall c hc
  · have h := pragma.of_mem (p := fun c => !breaksLine c) hc (by decide) rfl
    simpa using h

/-- A comment is passed over up to the next line. -/
theorem skip_pragma (pragma : Pragma) : skip (pragma.printed ++ '\n' :: cs) = skip cs := by
  obtain ⟨text, hprinted, hline⟩ := exists_comment pragma
  have haside : asideLength ('/' :: '/' :: (text ++ '\n' :: cs)) = 0 := rfl
  have hgap : gapLength ('/' :: '/' :: (text ++ '\n' :: cs)) = 0 := rfl
  rw [hprinted, List.cons_append, List.cons_append, skip, skipFrom, if_neg (by decide),
    commentLength_line hline, haside, hgap, Nat.max_zero, Nat.max_zero, Nat.add_comm]
  exact skipFrom_append ('/' :: text) ('\n' :: cs)

theorem trailingComment?_pragma (pragma : Pragma) :
    trailingComment? (pragma.printed ++ '\n' :: cs) = some pragma.printed := by
  obtain ⟨text, hprinted, hline⟩ := exists_comment pragma
  rw [hprinted, List.cons_append, List.cons_append, trailingComment?, if_neg (by decide), if_neg (by decide),
    commentLength_line hline, Nat.add_comm]
  simp

theorem skip_pragmaText (pragma : Option Pragma) (k : List Char) : skip (Spaced.pragmaText pragma ++ k) = skip k := by
  cases pragma with
  | none => rfl
  | some pragma =>
    rw [Spaced.pragmaText, List.append_assoc]
    exact skip_pragma pragma

theorem trailingComment?_pragmaText (pragma : Option Pragma) (k : List Char) :
    trailingComment? (Spaced.pragmaText pragma ++ k) = pragma.map Pragma.printed := by
  cases pragma with
  | none => rfl
  | some pragma =>
    rw [Spaced.pragmaText, List.append_assoc]
    exact trailingComment?_pragma pragma

/-- What follows a property on its line is passed over. -/
theorem skip_lineEnd (property : Property) (k : List Char) : skip (property.lineEnd ++ k) = skip k := by
  rw [Property.lineEnd, List.append_assoc, skip_gap, skip_pragmaText]

/-- The comment on the line of a property is the first one behind its type, or its pragma. -/
theorem trailingComment?_lineEnd (property : Property) (k : List Char) :
    trailingComment? (property.back.text ++ ';' :: (property.lineEnd ++ k)) = property.note? := by
  have hsemicolon (cs : List Char) : trailingComment? (';' :: cs) = trailingComment? cs := rfl
  rw [trailingComment?_gap, hsemicolon, Property.lineEnd, List.append_assoc, trailingComment?_gap,
    trailingComment?_pragmaText, Property.note?, comment?_append, Option.or_assoc]

theorem trim_note {property : Property} {text : List Char} (h : property.note? = some text) :
    Text.trim text = text := by
  rw [Property.note?, Option.or_eq_some_iff] at h
  rcases h with h | ⟨-, h⟩
  · obtain ⟨comment, rfl⟩ := exists_comment_of_comment? h
    exact Written.trim_comment comment
  · obtain ⟨pragma, -, rfl⟩ := Option.map_eq_some_iff.1 h
    exact pragma.trim_printed

end

/-! ## Properties -/

section
variable {cs k : List Char} {steps depth : Nat}

/-- The text of a property behind its colon, up to its semicolon. -/
def behindColon (property : Property) (k : List Char) : List Char :=
  property.front.text ++ (property.type.printed ++ (property.back.text ++ ';' :: k))

theorem skip_behindColon (property : Property) (k : List Char) :
    skip (behindColon property k) = property.type.printed ++ (property.back.text ++ ';' :: k) := by
  rw [behindColon, skip_gap, skip_of_beginsType (beginsType_spaced property.type)]

/-- What is kept of a property that was read: its first comment may stand in place of its type. -/
theorem property?_spaced (property : Property) :
    property? none property.name.chars property.optional.isSome (behindColon property (property.lineEnd ++ k))
      (.ending (property.back.text ++ ';' :: (property.lineEnd ++ k)))
      (property.back.text ++ ';' :: (property.lineEnd ++ k)) = property.source? := by
  obtain ⟨c, rest, hprinted, hsolid, -⟩ := exists_of_beginsType (beginsType_spaced property.type)
  obtain ⟨hspace, hslash, hless, hminus, -⟩ := spec_of_isSolid hsolid
  have htype : firstComment? (property.type.printed ++ (property.back.text ++ ';' :: (property.lineEnd ++ k))) =
      none := by
    rw [firstComment?, hprinted, List.cons_append, List.dropWhile_cons, if_neg (by simp [hspace]),
      commentLength_cons hslash, asideLength_cons hless hminus]
    rfl
  have hcomment : firstComment? (behindColon property (property.lineEnd ++ k)) = property.front.comment? := by
    rw [behindColon, firstComment?_gap, htype, Option.or_none]
  have hconst : (property.type.printed == "const".toList) = false :=
    beq_false_of_ne (Written.spaced_ne_const property.type)
  have hnote : property.note?.map (fun text => String.ofList (Text.trim text)) =
      property.note?.map String.ofList := by
    cases hnote : property.note? with
    | none => rfl
    | some text => rw [Option.map_some, Option.map_some, trim_note hnote]
  rw [property?, hcomment, skip_behindColon, Reading.ending]
  simp only [textBefore_append, hconst, Bool.and_false, Bool.or_false, trailingComment?_lineEnd,
    property.name.plainName_chars, hnote, ite_self]
  rfl

/-- The text of a property behind its name, up to its semicolon. -/
def behindName (property : Property) (k : List Char) : List Char :=
  property.behindName.text ++ (Spaced.colonText property.optional ++ behindColon property k)

theorem endsWord_behindName (property : Property) : endsWord (behindName property k) = true := by
  refine endsWord_gap property.behindName ?_
  cases property.optional <;> rfl

variable {reader : Reader} {name : Name}

theorem memberName?_of_skip (hcs : skip cs = name.chars ++ k) (hk : endsWord k = true) :
    memberName? reader cs = some (some name.chars, k) := by
  rw [memberName?, hcs, word?_append (isWord_chars name) hk]
  rfl

theorem modifier?_of_skip {follow : Follow} {words : List String} (hcs : skip cs = name.chars ++ k)
    (hwords : ∀ word ∈ words, word ∈ keywords) (hk : endsWord k = true) : modifier? follow words cs = none := by
  rw [modifier?, hcs, anyKeyword?_name hwords hk]
  rfl

theorem skipModifiers_of_skip {follow : Follow} {words : List String} (hcs : skip cs = name.chars ++ k)
    (hwords : ∀ word ∈ words, word ∈ keywords) (hk : endsWord k = true) :
    skipModifiers follow words cs = cs := by
  induction words with
  | nil => rfl
  | cons word words ih =>
    have hnone : modifier? follow [word] cs = none :=
      modifier?_of_skip hcs (fun w hw => hwords w (by simp_all)) hk
    rw [skipModifiers, List.foldl_cons, hnone]
    exact ih fun w hw => hwords w (List.mem_cons_of_mem word hw)

theorem takeVisibility_of_skip (hcs : skip cs = name.chars ++ k) (hk : endsWord k = true) :
    takeVisibility cs = (none, cs) := by
  rw [takeVisibility, modifier?_of_skip hcs (by decide) hk]

theorem methodModifiers?_of_skip {follow : Follow} (hcs : skip cs = name.chars ++ k) (hk : endsWord k = true) :
    methodModifiers? follow cs = none := by
  rw [methodModifiers?, modifier?_of_skip hcs (by decide) hk]
  simp only [Option.getD_none, Option.isSome_none, Bool.false_eq_true, if_false]
  rw [modifier?_of_skip hcs (by decide) hk, nextMark?_of_skip hcs rfl]
  rfl

theorem namelessMember?_of_skip (hcs : skip cs = name.chars ++ k) (hk : endsWord k = true) :
    namelessMember? reader cs = none := by
  have hskip : skip (name.chars ++ k) = name.chars ++ k := skip_append (isWord_chars name)
  rw [namelessMember?, hcs]
  simp only [hskip, atAnyMark_append (isWord_chars name) (by decide : ∀ mark ∈ ["(", "<"], isMark mark = true),
    nextKeyword?_of_skip hskip (by decide : "abstract" ∈ keywords) hk, Option.map_none, Option.getD_none,
    keyword?_name (by decide : "new" ∈ keywords) hk, Bool.false_eq_true, if_false]
  rfl

theorem indexSignature?_of_skip (hcs : skip cs = name.chars ++ k) (hk : endsWord k = true) :
    indexSignature? reader cs = none := by
  rw [indexSignature?, nextMark?_of_skip hcs rfl, nextMark?_of_skip hcs rfl]
  simp only [Option.none_or, Option.getD_none, nextKeyword?_of_skip hcs (by decide : "readonly" ∈ keywords) hk,
    Option.isSome_none, Bool.false_eq_true, if_false, Option.bind_eq_bind, Option.bind_some,
    nextMark?_of_skip hcs (by decide : isMark "[" = true), Option.bind_none]

theorem atExport_of_skip (hcs : skip cs = name.chars ++ k) (hk : endsWord k = true) : atExport cs = false := by
  rw [atExport, hcs, atMark_append (isWord_chars name) rfl, nextKeyword?_of_skip hcs (by decide) hk]
  rfl

theorem atKeyword_name {word : String} (hword : word ∈ keywords) (hk : endsWord k = true) :
    atKeyword word (name.chars ++ k) = false := by
  rw [atKeyword, keyword?_name hword hk]
  rfl

/-! ## Members of object types -/

/-- A type behind its colon is read up to its last token. -/
theorem read_type_line (property : Property) (hsteps : (behindColon property k).length ≤ steps)
    (hdepth : property.type.printed.length ≤ depth) :
    (readerWithin steps (depth + 1)).read (.type .line) (behindColon property k) =
      some (.ending (property.back.text ++ ';' :: k)) := by
  have hlength : (property.type.printed ++ (property.back.text ++ ';' :: k)).length ≤ steps := by
    rw [behindColon, List.length_append] at hsteps
    omega
  exact type?_spaced property.type rfl (endsType_gap property.back (by decide)) (skip_behindColon property k)
    hlength hdepth

/-- Behind the name stands a question mark, if the property is optional, and then the colon. -/
theorem exists_behindMark (property : Property) (k : List Char) : ∃ rest,
    ahead .line rest = ':' :: behindColon property k ∧
      atMark "?" (ahead .line (behindName property k)) = property.optional.isSome ∧
      (if property.optional.isSome then skipMark "?" (behindName property k) else behindName property k) = rest ∧
      ((mark? "?" (ahead .line (behindName property k))).or
        (mark? "!" (ahead .line (behindName property k)))).getD (behindName property k) = rest ∧
      (mark? "?" (ahead .line (behindName property k))).getD (behindName property k) = rest := by
  have hcolon (gap : Gap) : ahead .line (gap.text ++ ':' :: behindColon property k) =
      ':' :: behindColon property k := by
    rw [ahead_gap, ahead_cons (by decide)]
  rw [behindName]
  cases property.optional with
  | none =>
    refine ⟨property.behindName.text ++ ':' :: behindColon property k, hcolon _, ?_⟩
    rw [Spaced.colonText, List.singleton_append, hcolon]
    exact ⟨rfl, rfl, rfl, rfl⟩
  | some gap =>
    have hmark : ahead .line (property.behindName.text ++ '?' :: (gap.text ++ ':' :: behindColon property k)) =
        '?' :: (gap.text ++ ':' :: behindColon property k) := by
      rw [ahead_gap, ahead_cons (by decide)]
    have hskip : skipMark "?" (property.behindName.text ++ '?' :: (gap.text ++ ':' :: behindColon property k)) =
        gap.text ++ ':' :: behindColon property k := by
      rw [skipMark, nextMark?, skip_gap, skip_cons (by decide)]
      rfl
    refine ⟨gap.text ++ ':' :: behindColon property k, hcolon gap, ?_⟩
    rw [Spaced.colonText, List.cons_append, List.append_assoc, List.singleton_append, hmark, hskip]
    exact ⟨rfl, rfl, rfl, rfl⟩

/-- The lengths that a property is read with are bounded by the text that it stands in. -/
theorem length_behindName_le (property : Property) (k : List Char) :
    (behindColon property (property.lineEnd ++ k)).length ≤ (property.printed ++ k).length ∧
      property.type.printed.length ≤ property.printed.length := by
  simp only [Property.printed, behindColon, List.length_append, List.length_cons]
  omega

theorem namedMember?_spaced (property : Property)
    (hcs : skip cs = property.name.chars ++ behindName property (property.lineEnd ++ k))
    (hsteps : (property.printed ++ k).length ≤ steps) (hdepth : property.printed.length ≤ depth) :
    namedMember? (readerWithin steps (depth + 1)) none cs =
      some (property.source?, property.back.text ++ ';' :: (property.lineEnd ++ k)) := by
  obtain ⟨hbehind, htype⟩ := length_behindName_le property k
  obtain ⟨rest, hcolon, hoptional, hrest, -⟩ := exists_behindMark property (property.lineEnd ++ k)
  have hread := read_type_line property (Nat.le_trans hbehind hsteps) (Nat.le_trans htype hdepth)
  rw [namedMember?, memberName?_of_skip hcs (endsWord_behindName property)]
  simp only [Option.bind_eq_bind, Option.bind_some, hoptional, hrest, hcolon, hread]
  exact congrArg (fun found => some (found, property.back.text ++ ';' :: (property.lineEnd ++ k)))
    (property?_spaced property)

/-- What begins with a name is read as a member from its name on. -/
theorem member?_of_skip (hcs : skip cs = name.chars ++ k) (hk : endsWord k = true) :
    member? reader cs = namedMember? reader none cs := by
  have habstract : atKeyword "abstract" (skip cs) = false := by
    rw [hcs, atKeyword_name (by decide) hk]
  rw [member?, namelessMember?_of_skip hcs hk, indexSignature?_of_skip hcs hk]
  simp only [Option.or_none, habstract, atExport_of_skip hcs hk, Bool.false_eq_true, if_false,
    takeVisibility_of_skip hcs hk]
  rw [skipModifiers_of_skip hcs (by decide) hk, methodModifiers?_of_skip hcs hk]

/-- A property is found as a member of an object type. -/
theorem member?_spaced (property : Property)
    (hcs : skip cs = property.name.chars ++ behindName property (property.lineEnd ++ k))
    (hsteps : (property.printed ++ k).length ≤ steps) (hdepth : property.printed.length ≤ depth) :
    member? (readerWithin steps (depth + 1)) cs =
      some (property.source?, property.back.text ++ ';' :: (property.lineEnd ++ k)) :=
  (member?_of_skip hcs (endsWord_behindName property)).trans (namedMember?_spaced property hcs hsteps hdepth)

theorem property_append (property : Property) (k : List Char) : property.printed ++ k =
    property.indent.text ++ (property.name.chars ++ behindName property (property.lineEnd ++ k)) := by
  simp [Property.printed, behindName, behindColon]

theorem property_ne_nil (property : Property) : property.printed ≠ [] := by
  simp [Property.printed]

/-- In front of a property nothing but the gap is passed over. -/
theorem skip_property (property : Property) (k : List Char) :
    skip (property.printed ++ k) = property.name.chars ++ behindName property (property.lineEnd ++ k) := by
  rw [property_append, skip_gap, skip_append (isWord_chars property.name)]

/-- Nothing is missing in a property. -/
theorem whole?_spaced {α : Type} (property : Property) (item : Option α)
    (hcs : skip cs = property.name.chars ++ behindName property k) :
    whole? item (property.back.text ++ ';' :: k) cs = item := by
  have hcolon : hasGap (Spaced.colonText property.optional) = false := by
    cases property.optional with
    | none => rfl
    | some gap =>
      have hmarks : hasGap ['?'] = false ∧ hasGap [':'] = false := ⟨rfl, rfl⟩
      rw [Spaced.colonText, ← List.singleton_append, Written.hasGap_append, Written.hasGap_append, hasGap_gap,
        hmarks.1, hmarks.2]
      rfl
  have htext : textBefore (property.back.text ++ ';' :: k) (skip cs) = property.name.chars ++
      (property.behindName.text ++ (Spaced.colonText property.optional ++ (property.front.text ++
        property.type.printed))) := by
    have hassoc : property.name.chars ++ behindName property k = property.name.chars ++
        (property.behindName.text ++ (Spaced.colonText property.optional ++ (property.front.text ++
          property.type.printed))) ++ (property.back.text ++ ';' :: k) := by
      simp [behindName, behindColon]
    rw [hcs, hassoc, textBefore_append]
  rw [whole?, htext]
  simp only [Written.hasGap_append, property.name.hasGap_chars, hasGap_gap, hcolon, Written.hasGap_spaced]
  rfl

/-! ## Members of classes -/

theorem skipClassModifiers?_of_skip (hcs : skip cs = name.chars ++ k) (hk : endsWord k = true) :
    skipClassModifiers? cs = some cs := by
  rw [skipClassModifiers?, hcs]
  simp only [atKeyword_name (by decide : "abstract" ∈ keywords) hk,
    atKeyword_name (by decide : "accessor" ∈ keywords) hk, Bool.false_eq_true, if_false]
  rw [modifier?_of_skip hcs (by decide) hk, modifier?_of_skip hcs (by decide) hk]

theorem field?_spaced (property : Property)
    (hsteps : (property.printed ++ k).length ≤ steps) (hdepth : property.printed.length ≤ depth) :
    field? (readerWithin steps (depth + 1)) none (some property.name.chars)
        (behindName property (property.lineEnd ++ k)) =
      some ⟨property.source?, property.back.text ++ ';' :: (property.lineEnd ++ k), some .line⟩ := by
  obtain ⟨hbehind, htype⟩ := length_behindName_le property k
  obtain ⟨rest, hcolon, hoptional, -, hrest, -⟩ := exists_behindMark property (property.lineEnd ++ k)
  have hread := read_type_line property (Nat.le_trans hbehind hsteps) (Nat.le_trans htype hdepth)
  have hsemicolon : ahead .line (property.back.text ++ ';' :: (property.lineEnd ++ k)) =
      ';' :: (property.lineEnd ++ k) := by
    rw [ahead_gap, ahead_cons (by decide)]
  rw [field?, hoptional]
  simp only [hrest, hcolon, hread, Option.map_some, Option.bind_eq_bind, Option.bind_some, Option.elim_some,
    Reading.ending, hsemicolon]
  exact congrArg (fun found => some (ClassMember.mk found _ (some .line))) (property?_spaced property)

/-- A property is found as a member of a class. -/
theorem classMember?_spaced (property : Property)
    (hcs : skip cs = property.name.chars ++ behindName property (property.lineEnd ++ k))
    (hsteps : (property.printed ++ k).length ≤ steps) (hdepth : property.printed.length ≤ depth) :
    classMember? (readerWithin steps (depth + 1)) cs =
      some ⟨property.source?, property.back.text ++ ';' :: (property.lineEnd ++ k), some .line⟩ := by
  have hk := endsWord_behindName (k := property.lineEnd ++ k) property
  obtain ⟨rest, hcolon, -, -, -, hrest⟩ := exists_behindMark property (property.lineEnd ++ k)
  have hsigned : atAnyMark ["(", "<"] (':' :: behindColon property (property.lineEnd ++ k)) = false := rfl
  rw [classMember?, nextKeyword?_of_skip hcs (by decide) hk, indexSignature?_of_skip hcs hk]
  simp only [Option.bind_none]
  rw [skipModifiers_of_skip hcs (by decide) hk, takeVisibility_of_skip hcs hk]
  simp only
  rw [skipModifiers_of_skip hcs (by decide) hk, skipClassModifiers?_of_skip hcs hk]
  simp only [Option.bind_eq_bind, Option.bind_some, methodModifiers?_of_skip hcs hk, Option.getD_none,
    memberName?_of_skip hcs hk, hrest, hcolon, hsigned, Option.isSome_none, Bool.or_false, Bool.false_eq_true,
    if_false]
  exact field?_spaced property hsteps hdepth

theorem classMembers?_of_skip {earlier : List Source.Property} {count : Nat} (hcs : skip cs = name.chars ++ k) :
    classMembers? reader (count + 1) earlier cs =
      (classMember? reader cs).bind fun member => member.ended?.bind fun rest =>
        classMembers? reader count ((whole? member.property member.rest cs).toList ++ earlier) rest := by
  have hne {m : Char} (hm : isNamePart m = false) : (name.chars ++ k).head? ≠ some m :=
    head?_append_ne (isWord_chars name) hm
  rw [classMembers?, hcs]
  split
  · next heq => exact absurd (congrArg List.head? heq) (hne rfl)
  · next heq => exact absurd (congrArg List.head? heq) (hne rfl)
  · next heq => exact absurd (congrArg List.head? heq) (hne rfl)
  · rfl

/-- The properties of a class are read up to the closing brace. -/
theorem classMembers?_spaced {properties : List Property} {earlier : List Source.Property} {count : Nat} (close : Gap)
    (hcs : skip cs = skip (properties.flatMap Property.printed ++ (close.text ++ '\x7d' :: k)))
    (hsteps : (properties.flatMap Property.printed ++ (close.text ++ '\x7d' :: k)).length ≤ steps)
    (hdepth : (properties.flatMap Property.printed).length ≤ depth) (hcount : properties.length ≤ count) :
    classMembers? (readerWithin steps (depth + 1)) (count + 1) earlier cs =
      some (earlier.reverse ++ properties.filterMap Property.source?, k) := by
  induction properties generalizing earlier count cs with
  | nil =>
    have hbrace : skip ('\x7d' :: k) = '\x7d' :: k := rfl
    rw [classMembers?, hcs, List.flatMap_nil, List.nil_append, skip_gap, hbrace]
    simp
  | cons property properties ih =>
    rw [List.flatMap_cons, List.append_assoc] at hcs hsteps
    rw [List.flatMap_cons, List.length_append] at hdepth
    have hname := hcs.trans (skip_property property _)
    obtain ⟨count, rfl⟩ : ∃ m, count = m + 1 := ⟨count - 1, by simp at hcount; omega⟩
    have hended (cs : List Char) :
        (ClassMember.mk property.source? (property.back.text ++ ';' :: cs) (some .line)).ended? = some cs := by
      have hhere : ahead .line (property.back.text ++ ';' :: cs) = ';' :: cs := by
        rw [ahead_gap, ahead_cons (by decide)]
      simp only [ClassMember.ended?, terminated?, hhere]
      rfl
    rw [classMembers?_of_skip hname, classMember?_spaced property hname hsteps (by omega)]
    simp only [Option.bind_some, whole?_spaced property _ hname, hended]
    rw [List.length_append] at hsteps
    rw [ih (skip_lineEnd property _) (by omega) (by omega) (by simpa using hcount)]
    cases hsource : property.source? <;> simp [hsource]

end

/-! ## Properties without comments -/

section
variable {cs k : List Char} {steps depth : Nat}

/-- A written property with its spaces for gaps. -/
def spacedProperty (property : Written.Property) : Property where
  indent := [.space, .space]
  name := property.name
  optional := if property.optional then some [] else none
  front := [.space]
  type := spacedType property.type
  behind := if property.pragma.isSome then [.space] else []
  pragma := property.pragma

theorem lineEnd_spacedProperty (property : Written.Property) :
    (spacedProperty property).lineEnd = property.lineEnd := by
  rw [Property.lineEnd, Written.Property.lineEnd, spacedProperty]
  cases property.pragma <;> rfl

theorem printed_spacedProperty (property : Written.Property) :
    (spacedProperty property).printed = property.printed := by
  have hcolon : Spaced.colonText (spacedProperty property).optional ++ [' '] = property.colon := by
    rw [Written.Property.colon, spacedProperty]
    cases property.optional <;> rfl
  have htype : (spacedProperty property).type.printed = property.type.printed := printed_spacedType property.type
  rw [Property.printed, lineEnd_spacedProperty, htype, Written.Property.printed, ← hcolon]
  simp [spacedProperty, Gap.text, Spaced.Piece.text]

theorem note?_spacedProperty (property : Written.Property) :
    (spacedProperty property).note? = property.pragma.map Pragma.printed := by
  rw [Property.note?, spacedProperty]
  cases property.pragma <;> rfl

/-- Without comments, a property is found as it was written. -/
theorem source?_spacedProperty (property : Written.Property) :
    (spacedProperty property).source? = some property.source := by
  have hrecorded : (spacedProperty property).recorded = property.type.printed := by
    have htype : (spacedProperty property).type.printed = property.type.printed := printed_spacedType property.type
    have hfront : Gap.comment? (spacedProperty property).front = none := rfl
    rw [Property.recorded, hfront, Option.getD_none, htype, property.type.trim_printed]
  have hoptional : (spacedProperty property).optional.isSome = property.optional := by
    rw [spacedProperty]
    cases property.optional <;> rfl
  have hhint : property.pragma.bind (typeHint? ∘ String.ofList ∘ Pragma.printed) = property.pragma.map Pragma.text := by
    cases property.pragma with
    | none => rfl
    | some pragma => exact pragma.typeHint?_printed
  rw [Property.source?, hrecorded, property.type.hasInfix_import, hoptional, note?_spacedProperty]
  simp only [Bool.false_eq_true, if_false, Written.Property.source, Option.map_map, Option.bind_map]
  exact congrArg (fun hint => some (Source.Property.mk _ _ _ _ _ hint _)) hhint

end

end BeanGen.Script
