import BeanGen.Proofs.Script.Openings
import BeanGen.Proofs.Script.WrittenLines

/-!
# Statements on lines of their own

A script is a row of statements, each of which is read alike whatever follows it (`StatementText`). The
items of a script are those of its statements (`items_scriptText`). Written declarations are such statements
(`writtenStatement`), and so is every interface with one member a line (`interfaceStatement`).
-/

namespace BeanGen.Script

open Written (Name clause)
open Spaced (clauseText clauseNames)

/-! ## Statements -/

/-- A line in front of this text ends with its line break. -/
def BeginsLine (cs : List Char) : Prop :=
  ∀ follow, endsAt follow ('\n' :: cs) = true

/-- A statement on lines of its own. -/
structure StatementText where
  text : List Char
  /-- What it contributes. -/
  item : Option Item
  /-- What is left of its last line. -/
  tail : Trivia
  begins : ∀ k, ∃ c rest, skip (text ++ k) = c :: rest ∧ c ≠ '#'
  beginsLine : ∀ k, BeginsLine (text ++ k)
  reads : ∀ {steps depth : Nat} {k : List Char}, BeginsLine k → (text ++ k).length < steps →
    (text ++ k).length ≤ depth →
    statement? (readerWithin steps (depth + 2)) (skip (text ++ k)) = some (item, tail.text ++ k)

/-- The statements as text. -/
def statementsText (statements : List StatementText) : List Char :=
  statements.flatMap StatementText.text

/-- What is left of the last statement, or what stands in front of them if there are none. -/
def leftBehind (lead : Trivia) (statements : List StatementText) : Trivia :=
  statements.foldl (fun _ statement => statement.tail) lead

section
variable {reader : Reader} {cs k rest : List Char} {steps depth count : Nat} {lead : Trivia}
  {statements : List StatementText} {item : Option Item}

theorem beginsLine_nil : BeginsLine [] :=
  fun _ => rfl

theorem beginsLine_statementsText (hk : BeginsLine k) : BeginsLine (statementsText statements ++ k) := by
  cases statements with
  | nil => exact hk
  | cons statement statements =>
    rw [statementsText, List.flatMap_cons, List.append_assoc]
    exact statement.beginsLine _

/-- What the statement contributes that the text begins with, be it broken or not. -/
def contribution (reader : Reader) (cs : List Char) : Contribution :=
  (statement? reader cs).getD (salvaged reader cs)

theorem contribution_of_some {found : Contribution} (h : statement? reader cs = some found) :
    contribution reader cs = found := by
  rw [contribution, h]
  rfl

theorem contribution_of_none (h : statement? reader cs = none) : contribution reader cs = salvaged reader cs := by
  rw [contribution, h]
  rfl

/-- A statement is one step. -/
theorem itemsFrom_succ {c : Char} {cs' : List Char} (hcs : skip cs = c :: cs')
    (hread : contribution reader (c :: cs') = (item, rest)) :
    itemsFrom reader (count + 1) cs = item.toList ++ itemsFrom reader count rest := by
  rw [contribution] at hread
  rw [itemsFrom, hcs]
  dsimp only
  rw [hread]
  cases item <;> rfl

/-- The statements are read one after the other up to what follows them. -/
theorem itemsFrom_append (hk : BeginsLine k) (hsteps : (statementsText statements ++ k).length < steps)
    (hdepth : (statementsText statements ++ k).length ≤ depth) :
    itemsFrom (readerWithin steps (depth + 2)) (statements.length + count)
        (lead.text ++ (statementsText statements ++ k)) =
      statements.filterMap StatementText.item ++
        itemsFrom (readerWithin steps (depth + 2)) count ((leftBehind lead statements).text ++ k) := by
  induction statements generalizing lead with
  | nil => simp [statementsText, leftBehind]
  | cons statement statements ih =>
    have htext : statementsText (statement :: statements) ++ k =
        statement.text ++ (statementsText statements ++ k) := by
      simp [statementsText]
    rw [htext] at hsteps hdepth ⊢
    have hskip : skip (lead.text ++ (statement.text ++ (statementsText statements ++ k))) =
        skip (statement.text ++ (statementsText statements ++ k)) := lead.skip_append _
    obtain ⟨c, rest, hbegins, -⟩ := statement.begins (statementsText statements ++ k)
    have hread := statement.reads (beginsLine_statementsText hk) hsteps hdepth
    have hshorter : (statementsText statements ++ k).length ≤
        (statement.text ++ (statementsText statements ++ k)).length := by
      simp only [List.length_append]
      omega
    have hcontributes : contribution (readerWithin steps (depth + 2)) (c :: rest) =
        (statement.item, statement.tail.text ++ (statementsText statements ++ k)) :=
      contribution_of_some (hbegins ▸ hread)
    rw [List.length_cons, Nat.add_right_comm, itemsFrom_succ (hskip.trans hbegins) hcontributes,
      ih (by omega) (by omega)]
    cases hitem : statement.item <;> simp [leftBehind, hitem]

theorem itemsFrom_trivia (reader : Reader) (count : Nat) (lead : Trivia) :
    itemsFrom reader count lead.text = [] := by
  have hskip : skip lead.text = [] := by
    have h := lead.skip_append []
    rwa [List.append_nil] at h
  cases count with
  | zero => rfl
  | succ count => rw [itemsFrom, hskip]

/-- The items up to the end of the script. -/
theorem itemsFrom_statementsText (hsteps : (statementsText statements).length < steps)
    (hdepth : (statementsText statements).length ≤ depth) :
    itemsFrom (readerWithin steps (depth + 2)) (statements.length + count) (lead.text ++ statementsText statements) =
      statements.filterMap StatementText.item := by
  have hnil : statementsText statements ++ [] = statementsText statements := List.append_nil _
  have h : itemsFrom (readerWithin steps (depth + 2)) (statements.length + count)
      (lead.text ++ (statementsText statements ++ [])) = _ :=
    itemsFrom_append beginsLine_nil (by rwa [hnil]) (by rwa [hnil])
  rwa [hnil, List.append_nil, itemsFrom_trivia, List.append_nil] at h

end

/-! ## Scripts -/

section
variable {lead : Trivia} {before after : List StatementText}

/-- The text of a script, in which a statement stands among others. -/
def scriptText (lead : Trivia) (before after : List StatementText) (text : List Char) : String :=
  String.ofList (lead.text ++ (statementsText before ++ (text ++ statementsText after)))

theorem begins_statementsText (statements : List StatementText) {k : List Char}
    (hk : ∃ c rest, skip k = c :: rest ∧ c ≠ '#') :
    ∃ c rest, skip (statementsText statements ++ k) = c :: rest ∧ c ≠ '#' := by
  cases statements with
  | nil => exact hk
  | cons statement statements =>
    rw [statementsText, List.flatMap_cons, List.append_assoc]
    exact statement.begins _

theorem length_statements_le (statements : List StatementText) :
    statements.length ≤ (statementsText statements).length := by
  refine length_le_length_flatMap (fun statement hnil => ?_) statements
  obtain ⟨c, rest, hskip, -⟩ := statement.begins []
  rw [hnil] at hskip
  cases hskip

/-- The items of a script are those of its statements, one of which may be broken. -/
theorem items_scriptText {item : Option Item} {tail : Trivia} {text : List Char}
    (hbegins : ∃ c rest, skip (text ++ statementsText after) = c :: rest ∧ c ≠ '#')
    (hbeginsLine : BeginsLine (text ++ statementsText after))
    (hread : ∀ {steps depth : Nat}, (text ++ statementsText after).length < steps →
      (text ++ statementsText after).length ≤ depth →
      contribution (readerWithin steps (depth + 2)) (skip (text ++ statementsText after)) =
        (item, tail.text ++ statementsText after)) :
    items (scriptText lead before after text) =
      before.filterMap StatementText.item ++ (item.toList ++ after.filterMap StatementText.item) := by
  have hreader (n : Nat) : readerFor n = readerWithin (n + 1) (8 * n + 6 + 2) := rfl
  have hplain : withoutHashbang (lead.text ++ (statementsText before ++ (text ++ statementsText after))) =
      lead.text ++ (statementsText before ++ (text ++ statementsText after)) := by
    obtain ⟨c, rest, hskip, hc⟩ := begins_statementsText before hbegins
    have hmark : atMark "#!" (c :: rest) = false := by
      have hhead : (c :: rest).head? ≠ some '#' := by simpa using hc
      rw [atMark_eq, mark?_of_head? rfl hhead]
      rfl
    rw [withoutHashbang, lead.skip_append, hskip, hmark]
    rfl
  rw [items, scriptText, String.toList_ofList, hreader, hplain]
  obtain ⟨c, rest, hskip, -⟩ := hbegins
  have hbefore := length_statements_le before
  have hafter := length_statements_le after
  have hlength : (lead.text ++ (statementsText before ++ (text ++ statementsText after))).length =
      lead.text.length + ((statementsText before).length + (text ++ statementsText after).length) := by
    simp only [List.length_append]
  have hlonger : (statementsText after).length ≤ (text ++ statementsText after).length := by
    simp only [List.length_append]
    omega
  generalize (lead.text ++ (statementsText before ++ (text ++ statementsText after))).length = n at hlength ⊢
  obtain ⟨more, hmore⟩ : ∃ more, n + 1 = before.length + (after.length + more + 1) :=
    ⟨n - before.length - after.length, by omega⟩
  have hall : (statementsText before ++ (text ++ statementsText after)).length ≤ n := by
    rw [List.length_append]
    omega
  have hstatement : contribution (readerWithin (n + 1) (8 * n + 6 + 2)) (c :: rest) =
      (item, tail.text ++ statementsText after) := by
    rw [← hskip]
    exact hread (by omega) (by omega)
  rw [congrArg (fun count => itemsFrom (readerWithin (n + 1) (8 * n + 6 + 2)) count _) hmore,
    itemsFrom_append hbeginsLine (by omega) (by omega),
    itemsFrom_succ (((leftBehind lead before).skip_append _).trans hskip) hstatement,
    itemsFrom_statementsText (by omega) (by omega)]

end

/-! ## The interface -/

/-- The type parameters of an interface and its bases. -/
def heritage? (reader : Reader) (cs : List Char) : Option (List String × List Char) := do
  let rest ← optionalTypeParameters? reader cs
  clause? reader "extends" (interfaceBase? reader) rest

/-- An interface up to its body: its name, and what names its bases. -/
structure InterfaceHead where
  word : List Char
  isWord : isWord word = true
  free : ∀ operator ∈ operatorKeywords, word ≠ operator.toList
  /-- What stands behind the name. -/
  more : List Char
  bases : List String
  /-- What stands in front of the brace. -/
  space : Trivia
  endsWord : ∀ k, endsWord (more ++ (space.text ++ '\x7b' :: k)) = true
  reads : ∀ {steps depth : Nat} {k : List Char}, (more ++ (space.text ++ '\x7b' :: k)).length < steps →
    (more ++ (space.text ++ '\x7b' :: k)).length ≤ depth →
    heritage? (readerWithin steps (depth + 2)) (more ++ (space.text ++ '\x7b' :: k)) =
      some (bases, space.text ++ '\x7b' :: k)

/-- An interface with one member a line. -/
structure InterfaceText where
  opening : Opening
  head : InterfaceHead
  /-- The rest of the line behind the opening brace. -/
  first : Trivia
  members : MemberLines
  /-- The rest of the line behind the closing brace. -/
  tail : Trivia

namespace InterfaceText

/-- The interface behind its keyword, with these lines in its body. -/
def behindKeyword (decl : InterfaceText) (lines : List Char) : List Char :=
  decl.head.word ++ (decl.head.more ++ (decl.head.space.text ++ '\x7b' :: (decl.first.text ++
    (lines ++ '\x7d' :: decl.tail.text))))

/-- What stands behind the opening brace, in front of `k`. -/
def inBraces (decl : InterfaceText) (lines k : List Char) : List Char :=
  decl.first.text ++ (lines ++ '\x7d' :: (decl.tail.text ++ k))

/-- The interface as text, with these lines in its body. -/
def around (decl : InterfaceText) (lines : List Char) : List Char :=
  decl.opening.before (decl.behindKeyword lines)

/-- The interface as text. -/
def text (decl : InterfaceText) : List Char :=
  decl.around (linesText decl.members.lines)

/-- The interface as it is found in the script. -/
def source (decl : InterfaceText) : Source.Interface where
  name := String.ofList decl.head.word
  bases := decl.head.bases
  properties := linesProperties decl.members.lines

/-- The interface as an item of the script. -/
def item (decl : InterfaceText) : Item :=
  .declared (.ofInterface decl.source)

end InterfaceText

section
variable {k lines : List Char} {steps depth : Nat} {decl : InterfaceText}

theorem before_append (opening : Opening) (cs k : List Char) : opening.before cs ++ k = opening.before (cs ++ k) := by
  cases opening <;> simp [Opening.before, Opening.words]

theorem length_before (opening : Opening) (cs : List Char) : cs.length + 3 < (opening.before cs).length := by
  cases opening <;> simp [Opening.before, Opening.words]

theorem behindKeyword_append (decl : InterfaceText) (lines k : List Char) :
    decl.behindKeyword lines ++ k = decl.head.word ++ (decl.head.more ++ (decl.head.space.text ++
      '\x7b' :: decl.inBraces lines k)) := by
  simp [InterfaceText.behindKeyword, InterfaceText.inBraces]

/-- Up to its body an interface is read alike whatever its members are. -/
theorem head_around (hsteps : (decl.behindKeyword lines ++ k).length < steps)
    (hdepth : (decl.behindKeyword lines ++ k).length ≤ depth) :
    ((nextWord? (' ' :: (decl.behindKeyword lines ++ k))).bind fun found =>
        (heritage? (readerWithin steps (depth + 2)) found.2).map (found.1, ·)) =
      some (decl.head.word, decl.head.bases, decl.head.space.text ++ '\x7b' :: decl.inBraces lines k) := by
  have hskip (cs : List Char) : skip (' ' :: (decl.head.word ++ cs)) = decl.head.word ++ cs :=
    skip_append decl.head.isWord
  rw [behindKeyword_append] at hsteps hdepth ⊢
  rw [List.length_append] at hsteps hdepth
  rw [nextWord?, hskip, word?_append decl.head.isWord (decl.head.endsWord _), Option.bind_some,
    decl.head.reads (by omega) (by omega)]
  rfl

theorem interface?_eq (reader : Reader) (cs : List Char) : interface? reader cs =
    (((nextWord? cs).bind fun found => (heritage? reader found.2).map (found.1, ·)).bind fun (name, bases, rest) =>
      (reader.read .objectType (skip rest)).map fun body =>
        (.ofInterface ⟨String.ofList name, bases, body.members.getD []⟩, body.rest)) := by
  rw [interface?]
  cases nextWord? cs with
  | none => rfl
  | some found =>
    simp only [heritage?, Option.bind_eq_bind, Option.bind_some]
    cases optionalTypeParameters? reader found.2 with
    | none => rfl
    | some rest =>
      simp only [Option.bind_some]
      cases clause? reader "extends" (interfaceBase? reader) rest with
      | none => rfl
      | some clause =>
        simp only [Option.bind_some, Option.map_some]
        cases reader.read .objectType (skip clause.2) <;> rfl

/-- Behind its keyword an interface is read as its body is. -/
theorem interface?_around (hsteps : (decl.behindKeyword lines ++ k).length < steps)
    (hdepth : (decl.behindKeyword lines ++ k).length ≤ depth) :
    interface? (readerWithin steps (depth + 2)) (' ' :: (decl.behindKeyword lines ++ k)) =
      (objectType? (readerWithin steps (depth + 1)) ('\x7b' :: decl.inBraces lines k)).map fun body =>
        (.ofInterface ⟨String.ofList decl.head.word, decl.head.bases, body.members.getD []⟩, body.rest) := by
  have hskip : skip (decl.head.space.text ++ '\x7b' :: decl.inBraces lines k) = '\x7b' :: decl.inBraces lines k :=
    (decl.head.space.skip_append _).trans (skip_cons (by decide))
  rw [interface?_eq, head_around hsteps hdepth, Option.bind_some]
  dsimp only
  rw [hskip]
  rfl

theorem length_inBraces (decl : InterfaceText) (lines k : List Char) :
    (lines ++ '\x7d' :: (decl.tail.text ++ k)).length < (decl.behindKeyword lines ++ k).length := by
  rw [behindKeyword_append]
  simp only [InterfaceText.inBraces, List.length_append, List.length_cons]
  omega

/-- As a statement the interface is what it is behind its keyword. -/
theorem statement?_behindKeyword (hsteps : (decl.around lines ++ k).length < steps) :
    statement? (readerWithin steps (depth + 1)) (decl.around lines ++ k) =
      (interface? (readerWithin steps (depth + 1)) (' ' :: (decl.behindKeyword lines ++ k))).map contributed := by
  have hlength := length_before decl.opening (decl.behindKeyword lines ++ k)
  rw [InterfaceText.around, before_append] at hsteps ⊢
  rw [behindKeyword_append] at hsteps hlength ⊢
  exact statement?_opening decl.opening (by omega) decl.head.isWord (decl.head.endsWord _) decl.head.free

theorem length_around (decl : InterfaceText) (lines k : List Char) :
    (decl.behindKeyword lines ++ k).length < (decl.around lines ++ k).length := by
  have hlength := length_before decl.opening (decl.behindKeyword lines ++ k)
  rw [InterfaceText.around, before_append]
  omega

/-- The interface is a statement. -/
theorem statement?_text (hsteps : (decl.text ++ k).length < steps) (hdepth : (decl.text ++ k).length ≤ depth) :
    statement? (readerWithin steps (depth + 2)) (decl.text ++ k) = some (some decl.item, decl.tail.text ++ k) := by
  have haround := length_around decl (linesText decl.members.lines) k
  have hinside := length_inBraces decl (linesText decl.members.lines) k
  have hcount := length_lines_le decl.members.lines
  rw [InterfaceText.text] at hsteps hdepth ⊢
  have hinside' := hinside
  rw [List.length_append] at hinside'
  have hbody : objectType? (readerWithin steps (depth + 1))
      ('\x7b' :: decl.inBraces (linesText decl.members.lines) k) =
        some { rest := decl.tail.text ++ k, members := some (linesProperties decl.members.lines) } :=
    objectType?_lines (.spaces 0) (endAt_of_inOrder decl.members.inOrder rfl)
      (Nat.le_of_lt (Nat.lt_trans hinside (Nat.lt_trans haround hsteps))) (by omega) (by omega)
  rw [statement?_behindKeyword hsteps, interface?_around (by omega) (by omega), hbody]
  rfl

/-- The interface begins with its first word. -/
theorem begins_around (decl : InterfaceText) (lines k : List Char) :
    (∃ c rest, decl.around lines ++ k = c :: rest ∧ c ≠ '#') ∧ BeginsLine (decl.around lines ++ k) ∧
      skip (decl.around lines ++ k) = decl.around lines ++ k := by
  rw [InterfaceText.around, before_append]
  cases decl.opening <;> exact ⟨⟨_, _, rfl, by decide⟩, fun _ => rfl, rfl⟩

end

/-! ## Written statements -/

theorem ahead_of_beginsLine {k : List Char} (hk : BeginsLine k) : ahead .expression ('\n' :: k) = [] := by
  rw [ahead, hk .expression]
  rfl

/-- A statement begins with one of its keywords. -/
theorem exists_opener (statement : Written.Statement) (k : List Char) :
    ∃ keyword ∈ openers, ∃ rest, statement.printed ++ k = keyword.toList ++ ' ' :: rest := by
  obtain ⟨keyword, hkeyword, rest, heq⟩ : ∃ keyword ∈ openers, ∃ rest, statement.printed = keyword.toList ++ ' ' :: rest := by
    obtain ⟨exported, decl⟩ := statement
    cases exported with
    | false => exact ⟨_, keyword_spacedDeclaration decl ▸ keyword_mem_openers (spacedDeclaration decl), _, rfl⟩
    | true => exact ⟨_, List.mem_cons_self, decl.printed, rfl⟩
  exact ⟨keyword, hkeyword, rest ++ k, by rw [heq]; simp⟩

/-- A written declaration. -/
def writtenStatement (statement : Written.Statement) : StatementText where
  text := statement.printed
  item := some (.declared statement.decl.source)
  tail := .lineBreak
  begins k := by
    obtain ⟨keyword, hkeyword, rest, heq⟩ := exists_opener statement k
    rw [heq, skip_append (isWord_of_mem_openers hkeyword)]
    simp only [openers, List.mem_cons, List.not_mem_nil, or_false] at hkeyword
    rcases hkeyword with rfl | rfl | rfl | rfl | rfl <;> exact ⟨_, _, rfl, by decide⟩
  beginsLine k follow := by
    obtain ⟨keyword, hkeyword, rest, heq⟩ := exists_opener statement k
    rw [heq]
    simp only [openers, List.mem_cons, List.not_mem_nil, or_false] at hkeyword
    rcases hkeyword with rfl | rfl | rfl | rfl | rfl <;> rfl
  reads {steps depth k} hk hsteps hdepth := by
    obtain ⟨keyword, hkeyword, rest, heq⟩ := exists_opener statement k
    have hskip : skip (statement.printed ++ k) = statement.printed ++ k := by
      rw [heq, skip_append (isWord_of_mem_openers hkeyword)]
    rw [hskip]
    exact statement?_printed statement (ahead_of_beginsLine hk) hsteps hdepth

/-- An interface with one member a line. -/
def interfaceStatement (decl : InterfaceText) : StatementText where
  text := decl.text
  item := some decl.item
  tail := decl.tail
  begins k := by
    obtain ⟨hbegins, -, hskip⟩ := begins_around decl (linesText decl.members.lines) k
    rwa [← hskip] at hbegins
  beginsLine k := (begins_around decl (linesText decl.members.lines) k).2.1
  reads {steps depth k} _ hsteps hdepth := by
    rw [InterfaceText.text, (begins_around decl _ k).2.2]
    exact statement?_text hsteps hdepth

/-- The name of an interface and the names of its bases. -/
def writtenHead (name : Name) (bases : List Name) (distinct : bases.Nodup) : InterfaceHead where
  word := name.chars
  isWord := isWord_chars name
  free operator hoperator := by
    have hsub : operatorKeywords ⊆ Written.keywords := by decide
    exact chars_ne (hsub hoperator)
  more := clause "extends" bases
  bases := bases.map Name.text
  space := .spaces 1
  endsWord k := by
    rw [← clauseText_spacedClause "extends" bases distinct]
    exact endsWord_clauseText "extends" _ rfl
  reads {steps depth k} hsteps hdepth := by
    have hkeyword : isWord "extends".toList = true := by decide
    have hbrace : AtToken ['\x7b'] [] ((Trivia.spaces 1).text ++ '\x7b' :: k) :=
      atToken_mark [.space] List.mem_cons_self (by decide) k
    rw [← clauseText_spacedClause "extends" bases distinct] at hsteps ⊢
    have hclause : clause? (readerWithin steps (depth + 2)) "extends" (interfaceBase? (readerWithin steps (depth + 2)))
        (clauseText "extends" (spacedClause bases distinct) ++ ((Trivia.spaces 1).text ++ '\x7b' :: k)) =
          some (clauseNames (spacedClause bases distinct), (Trivia.spaces 1).text ++ '\x7b' :: k) :=
      clause?_spaced hkeyword List.not_mem_nil hbrace (fun name k' hk' _ => interfaceBase?_name hk') hsteps
    rw [clauseNames_spacedClause] at hclause
    have hparameters : optionalTypeParameters? (readerWithin steps (depth + 2))
        (clauseText "extends" (spacedClause bases distinct) ++ ((Trivia.spaces 1).text ++ '\x7b' :: k)) =
          some (clauseText "extends" (spacedClause bases distinct) ++ ((Trivia.spaces 1).text ++ '\x7b' :: k)) :=
      optionalTypeParameters?_clauseText (spacedClause bases distinct) hkeyword hbrace
    exact (congrArg (Option.bind · _) hparameters).trans hclause

end BeanGen.Script
