import BeanGen.Proofs.Script.StatementTexts

/-!
# An interface with a broken member

With a broken line in its body an interface is no statement of the grammar any more
(`statement?_brokenText`), but it is salvaged with all its members and the same end
(`salvaged_brokenText`). So the file reads as it does without the line (`parse_insert_brokenLine`).
-/

namespace BeanGen.Script

namespace InterfaceText

/-- The lines of the body, with the broken line behind so many of them. -/
def brokenLines (decl : InterfaceText) (indent position : Nat) : List Char :=
  linesText (decl.members.lines.take position) ++
    (brokenLine (.spaces indent) ++ linesText (decl.members.lines.drop position))

/-- The interface as text, with the broken line behind so many of its members. -/
def brokenText (decl : InterfaceText) (indent position : Nat) : List Char :=
  decl.around (decl.brokenLines indent position)

end InterfaceText

section
variable {k lines : List Char} {steps depth : Nat} {decl : InterfaceText} {indent position : Nat}

/-! ## The lenient reader -/

theorem looseInterface?_eq (reader : Reader) (cs : List Char) : looseInterface? reader cs =
    (((nextWord? cs).bind fun found => (heritage? reader found.2).map (found.1, ·)).bind fun (name, bases, rest) =>
      (nextMark? "\x7b" rest).map fun inside =>
        (readBody (objectRules reader) reader.steps true true inside).declare fun properties =>
          .ofInterface ⟨String.ofList name, bases, properties⟩) := by
  rw [looseInterface?]
  cases nextWord? cs with
  | none => rfl
  | some found =>
    simp only [heritage?, Option.bind_eq_bind, Option.bind_some]
    cases optionalTypeParameters? reader found.2 with
    | none => rfl
    | some rest =>
      simp only [Option.bind_some]
      cases clause? reader "extends" (interfaceBase? reader) rest with
      | none => rfl
      | some clause =>
        simp only [Option.bind_some, Option.map_some]
        cases nextMark? "\x7b" clause.2 <;> rfl

/-- The lenient reader reads it as it reads the body. -/
theorem looseInterface?_around (hsteps : (decl.behindKeyword lines ++ k).length < steps)
    (hdepth : (decl.behindKeyword lines ++ k).length ≤ depth) :
    looseInterface? (readerWithin steps (depth + 2)) (' ' :: (decl.behindKeyword lines ++ k)) =
      some ((readBody (objectRules (readerWithin steps (depth + 2))) steps true true
        (decl.inBraces lines k)).declare fun properties =>
          .ofInterface ⟨String.ofList decl.head.word, decl.head.bases, properties⟩) := by
  have hbrace : nextMark? "\x7b" (decl.head.space.text ++ '\x7b' :: decl.inBraces lines k) =
      some (decl.inBraces lines k) := by
    rw [nextMark?, decl.head.space.skip_append, skip_cons (by decide)]
    rfl
  rw [looseInterface?_eq, head_around hsteps hdepth, Option.bind_some]
  dsimp only
  rw [hbrace]
  rfl

theorem looseDeclared?_behindKeyword {reader : Reader} (decl : InterfaceText) (lines k : List Char) :
    looseDeclared? reader (decl.around lines ++ k) = looseInterface? reader (' ' :: (decl.behindKeyword lines ++ k)) := by
  rw [InterfaceText.around, before_append, behindKeyword_append]
  exact looseDeclared?_opening decl.opening decl.head.isWord (decl.head.endsWord _) decl.head.free

/-! ## The broken line -/

theorem endsAt_brokenLine (indent : Nat) (k : List Char) :
    endsAt .line ('\n' :: (brokenLine (.spaces indent) ++ k)) = true := by
  have hbreak : endsBehindBreak .line 0 (brokenLine (.spaces indent) ++ k) = true := by
    induction indent with
    | zero => rfl
    | succ indent ih => exact ih
  exact hbreak

theorem inBraces_brokenLines (decl : InterfaceText) (indent position : Nat) (k : List Char) :
    decl.inBraces (decl.brokenLines indent position) k =
      decl.first.text ++ (linesText (decl.members.lines.take position) ++ (brokenLine (.spaces indent) ++
        (linesText (decl.members.lines.drop position) ++ '\x7d' :: (decl.tail.text ++ k)))) := by
  simp [InterfaceText.inBraces, InterfaceText.brokenLines]

/-- The broken line in the body, the lines in front of it and the length of it all. -/
theorem length_brokenLines (decl : InterfaceText) (indent position : Nat) (k : List Char) :
    (linesText (decl.members.lines.take position) ++ (brokenLine (.spaces indent) ++
        (linesText (decl.members.lines.drop position) ++ '\x7d' :: (decl.tail.text ++ k)))).length <
      (decl.brokenText indent position ++ k).length := by
  have haround := length_around decl (decl.brokenLines indent position) k
  have hinside := length_inBraces decl (decl.brokenLines indent position) k
  rw [InterfaceText.brokenText]
  refine Nat.lt_of_le_of_lt (Nat.le_of_eq ?_) (Nat.lt_trans hinside haround)
  simp [InterfaceText.brokenLines]

/-- With the broken line it is none. -/
theorem statement?_brokenText (hsteps : (decl.brokenText indent position ++ k).length < steps)
    (hdepth : (decl.brokenText indent position ++ k).length ≤ depth) :
    statement? (readerWithin steps (depth + 2)) (decl.brokenText indent position ++ k) = none := by
  have haround := length_around decl (decl.brokenLines indent position) k
  have hinside := length_brokenLines decl indent position k
  have hcount := length_lines_le (decl.members.lines.take position)
  rw [InterfaceText.brokenText] at hsteps hdepth hinside ⊢
  have hinside' := hinside
  rw [List.length_append] at hinside'
  have hbody : objectType? (readerWithin steps (depth + 1))
      ('\x7b' :: decl.inBraces (decl.brokenLines indent position) k) = none := by
    rw [inBraces_brokenLines]
    exact objectType?_broken (endAt_of_inOrder (decl.members.inOrder.take position) (endsAt_brokenLine indent _))
      (by omega) (by omega) (by omega)
  rw [statement?_behindKeyword hsteps, interface?_around (by omega) (by omega), hbody]
  rfl

/-- But it is salvaged with all its members and the same end. -/
theorem salvaged_brokenText (hsteps : (decl.brokenText indent position ++ k).length < steps)
    (hdepth : (decl.brokenText indent position ++ k).length ≤ depth) :
    salvaged (readerWithin steps (depth + 2)) (decl.brokenText indent position ++ k) =
      (some decl.item, decl.tail.text ++ k) := by
  have haround := length_around decl (decl.brokenLines indent position) k
  have hinside := length_brokenLines decl indent position k
  have habove := length_lines_le (decl.members.lines.take position)
  have hbelow := length_lines_le (decl.members.lines.drop position)
  have hstatement := statement?_brokenText hsteps hdepth
  rw [InterfaceText.brokenText] at hsteps hdepth hinside hstatement ⊢
  have hinside' := hinside
  have hparts : (decl.around (decl.brokenLines indent position) ++ k).length =
      (decl.around (decl.brokenLines indent position)).length + k.length := List.length_append
  simp only [List.length_append, List.length_cons, brokenLine] at hinside'
  have hbreak : "m: ;\n".toList.length = 5 := rfl
  have hall : linesText (decl.members.lines.take position ++ decl.members.lines.drop position) =
      linesText (decl.members.lines.take position) ++ linesText (decl.members.lines.drop position) :=
    List.flatMap_append
  have hbody : readBody (objectRules (readerWithin steps (depth + 2))) steps true true
      (decl.inBraces (decl.brokenLines indent position) k) =
        { items := linesProperties decl.members.lines, rest := decl.tail.text ++ k } := by
    rw [inBraces_brokenLines, readBody_insert
      (endAt_of_inOrder (decl.members.inOrder.take position) (endsAt_brokenLine indent _))
      (endAt_of_inOrder (decl.members.inOrder.drop position) rfl)
      (by omega) (by rw [hall, List.length_append]; omega) (by omega), List.take_append_drop]
  have hloose : looseStatement? (readerWithin steps (depth + 2))
      (decl.around (decl.brokenLines indent position) ++ k) = some (some decl.item, decl.tail.text ++ k) := by
    rw [looseStatement?, hstatement, looseDeclared?_behindKeyword, looseInterface?_around (by omega) (by omega), hbody]
    rfl
  rw [salvaged, hloose]
  rfl

end

/-! ## Scripts -/

section
variable {lead : Trivia} {before after : List StatementText}

/-- The items of a script in which an interface is read with all its members. -/
theorem items_around {decl : InterfaceText} {lines : List Char}
    (hread : ∀ {steps depth : Nat}, (decl.around lines ++ statementsText after).length < steps →
      (decl.around lines ++ statementsText after).length ≤ depth →
      contribution (readerWithin steps (depth + 2)) (decl.around lines ++ statementsText after) =
        (some decl.item, decl.tail.text ++ statementsText after)) :
    items (scriptText lead before after (decl.around lines)) =
      before.filterMap StatementText.item ++ decl.item :: after.filterMap StatementText.item := by
  obtain ⟨hbegins, hbeginsLine, hskip⟩ := begins_around decl lines (statementsText after)
  rw [← hskip] at hbegins
  exact items_scriptText hbegins hbeginsLine fun hsteps hdepth =>
    (congrArg (contribution _) hskip).trans (hread hsteps hdepth)

end

/-! ## A script with an interface among other declarations -/

namespace Sample

open Written (Name)

def ids : Written.Property where
  name := ⟨"ids", by decide, by decide⟩
  type := .array (.predefined "string" (by decide))
  optional := true
  pragma := some ⟨"java.util.Set", by decide⟩

def size : Written.Property where
  name := ⟨"size", by decide, by decide⟩
  type := .predefined "number" (by decide)

/-- The second member has a member of its own. -/
def site : InterfaceText where
  opening := .exported
  head := writtenHead ⟨"Site", by decide, by decide⟩ [⟨"Base", by decide, by decide⟩] (by simp)
  first := .lineBreak
  members := ⟨[propertyLine ids, nestedLine ⟨⟨"area", by decide, by decide⟩, false, none, .lineBreak,
    ⟨[propertyLine size], .singleton _⟩, 2⟩], .cons_cons (.inl rfl) (.singleton _)⟩
  tail := .lineBreak

def level : Written.Statement where
  decl := .ofEnum ⟨⟨"Level", by decide, by decide⟩, [⟨⟨"Low", by decide, by decide⟩, none⟩]⟩

def key : Written.Statement where
  decl := .ofAlias ⟨⟨"Key", by decide, by decide⟩, .named ⟨"Level", by decide, by decide⟩⟩

end Sample

end BeanGen.Script
