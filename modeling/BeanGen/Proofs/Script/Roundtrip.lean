import BeanGen.Proofs.Script.Enums

/-!
# Reading undoes printing

A printed script is read statement by statement: each one is read up to its last token, and the next one
begins on a new line with a keyword, so no statement goes on with what follows it. What is found are the
declarations that were printed, each with the text of its types, its flags, names, values and hints. This
holds of scripts with comments between their tokens (`items_spaced`), where a comment in front of a type or
behind it can be taken for something else, and so of scripts without comments (`parse_script`).
-/

namespace BeanGen.Script

open Written (Name keywords)
open Spaced (Gap Parting)

section
variable {cs k : List Char} {steps depth : Nat}

/-! ## Declarations -/

/-- What holds of the four keywords holds of the keyword of a declaration. -/
theorem of_keyword {p : String → Prop} (decl : Spaced.Declaration) (hinterface : p "interface")
    (hclass : p "class") (henum : p "enum") (htype : p "type") : p decl.keyword := by
  cases decl with
  | ofInterface _ => exact hinterface
  | ofClass _ => exact hclass
  | ofEnum _ => exact henum
  | ofAlias _ => exact htype

/-- The keywords that a statement can begin with. -/
def openers : List String :=
  ["export", "interface", "class", "enum", "type"]

theorem keyword_mem_openers (decl : Spaced.Declaration) : decl.keyword ∈ openers :=
  of_keyword decl (by decide) (by decide) (by decide) (by decide)

theorem isWord_of_mem_openers {keyword : String} (h : keyword ∈ openers) : isWord keyword.toList = true := by
  have hwords : ∀ keyword ∈ openers, isWord keyword.toList = true := by decide
  exact hwords keyword h

/-- A declaration goes on with its name behind its keyword. -/
theorem exists_name (decl : Spaced.Declaration) (k : List Char) :
    ∃ (name : Name) (cs : List Char), endsWord cs = true ∧ decl.behindKeyword ++ k = name.chars ++ cs := by
  cases decl with
  | ofInterface decl =>
    have hbody := atToken_braces [] decl.braces (decl.properties.flatMap Spaced.Property.printed) k
    refine ⟨decl.name, _, endsWord_clauseText "extends" decl.bases hbody.endsWord, ?_⟩
    simp [Spaced.Declaration.behindKeyword, Spaced.Interface.printed]
  | ofClass decl =>
    have hbody := atToken_braces [] decl.braces (decl.properties.flatMap Spaced.Property.printed) k
    refine ⟨decl.name, _, endsWord_clauseText "extends" (decl.base.map baseClause)
      (endsWord_clauseText "implements" decl.implements hbody.endsWord), ?_⟩
    simp [Spaced.Declaration.behindKeyword, Spaced.Class.printed, clauseText_baseClause]
  | ofEnum decl =>
    have hbody := atToken_braces [] decl.braces (decl.constants.flatMap Spaced.Constant.printed) k
    refine ⟨decl.name, _, hbody.endsWord, ?_⟩
    simp [Spaced.Declaration.behindKeyword, Spaced.Enum.printed]
  | ofAlias decl =>
    refine ⟨decl.name, _, endsWord_gap decl.before (k := '=' :: (decl.front.text ++ (decl.target.printed ++
      (decl.back.text ++ ';' :: (decl.tail.text ++ '\n' :: k))))) rfl, ?_⟩
    simp [Spaced.Declaration.behindKeyword, Spaced.Alias.printed]

theorem skip_behindKeyword (decl : Spaced.Declaration) (behind : Parting) (k : List Char) :
    skip (behind.text ++ (decl.behindKeyword ++ k)) = decl.behindKeyword ++ k := by
  obtain ⟨name, cs, -, hname⟩ := exists_name decl k
  rw [hname, Parting.text, skip_name]

/-- A declaration with its keyword, in front of `k`. -/
def withKeyword (decl : Spaced.Declaration) (behind : Parting) (k : List Char) : List Char :=
  decl.keyword.toList ++ (behind.text ++ (decl.behindKeyword ++ k))

variable {decl : Spaced.Declaration} {behind : Parting}

theorem nextWord?_declaration (hcs : skip cs = withKeyword decl behind k) :
    nextWord? cs = some (decl.keyword.toList, behind.text ++ (decl.behindKeyword ++ k)) := by
  rw [nextWord?, hcs, withKeyword, word?_append (isWord_of_mem_openers (keyword_mem_openers decl))
    (endsWord_parting behind _)]

theorem nextMark?_declaration (hcs : skip cs = withKeyword decl behind k) {mark : String} (hmark : isMark mark = true) :
    nextMark? mark cs = none := by
  rw [nextMark?, hcs, withKeyword, mark?_append (isWord_of_mem_openers (keyword_mem_openers decl)) hmark]

theorem nextKeyword?_declaration (hcs : skip cs = withKeyword decl behind k) {keyword : String}
    (hkeyword : keyword ∉ ["interface", "class", "enum", "type"]) : nextKeyword? keyword cs = none := by
  have hne : decl.keyword.toList ≠ keyword.toList := by
    have hmem : decl.keyword ∈ ["interface", "class", "enum", "type"] :=
      of_keyword decl (by decide) (by decide) (by decide) (by decide)
    intro heq
    exact hkeyword (String.toList_inj.1 heq ▸ hmem)
  rw [nextKeyword?, hcs, withKeyword, keyword?, word?_append (isWord_of_mem_openers (keyword_mem_openers decl))
    (endsWord_parting behind _)]
  exact if_neg hne

/-- What reads a declaration behind its keyword. -/
def behindKeyword? (reader : Reader) : Spaced.Declaration → List Char → Option (Declaration × List Char)
  | .ofInterface _ => interface? reader
  | .ofClass _ => classDeclaration? reader false
  | .ofEnum _ => enum? reader
  | .ofAlias _ => alias? reader

theorem keptDeclaration?_of_nextWord? {reader : Reader} {rest : List Char}
    (hword : nextWord? cs = some (decl.keyword.toList, rest)) :
    keptDeclaration? reader cs = behindKeyword? reader decl rest := by
  cases decl with
  | ofInterface decl =>
    have hword : nextWord? cs = some ("interface".toList, rest) := hword
    rw [keptDeclaration?, hword]
    rfl
  | ofClass decl =>
    have hword : nextWord? cs = some ("class".toList, rest) := hword
    rw [keptDeclaration?, hword]
    rfl
  | ofEnum decl =>
    have hword : nextWord? cs = some ("enum".toList, rest) := hword
    rw [keptDeclaration?, hword]
    rfl
  | ofAlias decl =>
    have hword : nextWord? cs = some ("type".toList, rest) := hword
    rw [keptDeclaration?, hword]
    rfl

/-- A declaration is read from its keyword on. -/
theorem keptDeclaration?_spaced (hcs : skip cs = withKeyword decl behind k)
    (hsteps : (decl.behindKeyword ++ k).length < steps) (hdepth : (decl.behindKeyword ++ k).length ≤ depth) :
    keptDeclaration? (readerWithin steps (depth + 2)) cs = some (decl.source, decl.tail.text ++ '\n' :: k) := by
  have hword := nextWord?_declaration hcs
  have hskip := skip_behindKeyword decl behind k
  rw [keptDeclaration?_of_nextWord? hword]
  cases decl with
  | ofInterface decl => exact interface?_spaced decl hskip hsteps hdepth
  | ofClass decl => exact classDeclaration?_spaced decl hskip hsteps (Nat.le_succ_of_le hdepth)
  | ofEnum decl => exact enum?_spaced decl hskip hsteps
  | ofAlias decl => exact alias?_spaced decl hskip hsteps (Nat.le_succ_of_le hdepth)

/-! ## Statements -/

theorem decorator?_of_nextMark? {reader : Reader} (h : nextMark? "@" cs = none) : decorator? reader cs = none := by
  rw [decorator?, h]
  rfl

/-- Where a declaration is the next token, it is read. -/
theorem wrapped?_of_skip {count : Nat} (hcs : skip cs = withKeyword decl behind k)
    (hsteps : (decl.behindKeyword ++ k).length < steps) (hdepth : (decl.behindKeyword ++ k).length ≤ depth) :
    wrapped? (readerWithin steps (depth + 2)) (count + 1) cs =
      some (some (.declared decl.source), decl.tail.text ++ '\n' :: k) := by
  have hdecorator : decorator? (readerWithin steps (depth + 2)) cs = none :=
    decorator?_of_nextMark? (nextMark?_declaration hcs (by decide))
  rw [wrapped?, skipDecorators, repeated_of_none hdecorator, nextKeyword?_declaration hcs (by decide)]
  dsimp only
  rw [nextKeyword?_declaration hcs (by decide)]
  dsimp only
  unfold declaration?
  rw [keptDeclaration?_spaced hcs hsteps hdepth]

/-- No brace follows the keyword of an alias. -/
theorem nextKeyword?_type (hcs : skip cs = withKeyword decl behind k) :
    (nextKeyword? "type" cs).bind (nextMark? "\x7b") = none := by
  obtain ⟨name, rest, -, hname⟩ := exists_name decl k
  have hbrace : nextMark? "\x7b" (behind.text ++ (decl.behindKeyword ++ k)) = none := by
    rw [hname]
    exact nextMark?_of_skip (skip_name behind.gap name rest) (by decide)
  rw [nextKeyword?, hcs, withKeyword, keyword?, word?_append (isWord_of_mem_openers (keyword_mem_openers decl))
    (endsWord_parting behind _)]
  dsimp only
  split
  · exact hbrace
  · rfl

/-- What is exported is nothing else than a declaration: no value, no list and no namespace. -/
theorem exported?_spaced {count : Nat} (hcs : skip cs = withKeyword decl behind k)
    (hsteps : (decl.behindKeyword ++ k).length < steps) (hdepth : (decl.behindKeyword ++ k).length ≤ depth) :
    wrapped?.exported? (readerWithin steps (depth + 2)) (count + 1) cs =
      some (some (.declared decl.source), decl.tail.text ++ '\n' :: k) := by
  have hwrapped : wrapped? (readerWithin steps (depth + 2)) (count + 1) cs =
      some (some (.declared decl.source), decl.tail.text ++ '\n' :: k) := wrapped?_of_skip hcs hsteps hdepth
  have htype := nextKeyword?_type hcs
  rw [wrapped?.exported?, nextMark?_declaration hcs (by decide)]
  dsimp only
  rw [nextKeyword?_declaration hcs (by decide)]
  dsimp only
  rw [starName?, nextMark?_declaration hcs (by decide)]
  simp only [specifiers?, nextMark?_declaration hcs (by decide : isMark "\x7b" = true),
    nextKeyword?_declaration hcs (by decide : "as" ∉ ["interface", "class", "enum", "type"])]
  -- the keyword of an alias could also begin a list of exported types, which is in braces
  cases hkeyword : nextKeyword? "type" cs with
  | none => exact hwrapped
  | some rest =>
    rw [hkeyword] at htype
    have hnone : nextMark? "\x7b" rest = none := htype
    simp only [Option.bind_some, hnone]
    exact hwrapped

/-- A declaration is read behind the word that exports it. -/
theorem wrapped?_export {count : Nat} (gap : Parting)
    (hsteps : (decl.behindKeyword ++ k).length < steps) (hdepth : (decl.behindKeyword ++ k).length ≤ depth) :
    wrapped? (readerWithin steps (depth + 2)) (count + 2)
        ("export".toList ++ (gap.text ++ withKeyword decl behind k)) =
      some (some (.declared decl.source), decl.tail.text ++ '\n' :: k) := by
  have hword : isWord "export".toList = true := by decide
  have hdecorator (reader : Reader) (rest : List Char) : decorator? reader ("export".toList ++ rest) = none := by
    refine decorator?_of_nextMark? ?_
    rw [nextMark?, skip_append hword, mark?_append hword (by decide)]
  have hexport : nextKeyword? "export" ("export".toList ++ (gap.text ++ withKeyword decl behind k)) =
      some (gap.text ++ withKeyword decl behind k) := by
    rw [nextKeyword?, skip_append hword, keyword?, word?_append hword (endsWord_parting gap _)]
    exact if_pos rfl
  have hskip : skip (gap.text ++ withKeyword decl behind k) = withKeyword decl behind k := by
    rw [Parting.text, skip_gap, withKeyword, skip_append (isWord_of_mem_openers (keyword_mem_openers decl))]
  rw [wrapped?, skipDecorators, repeated_of_none (hdecorator _ _), hexport]
  exact exported?_spaced hskip hsteps hdepth

/-- A text with one more word behind its first is no expression, unless an operator follows. -/
theorem atNameOnly_of_word? {first word rest text : List Char} (htext : word? text = some (first, rest))
    (hrest : ahead .expression rest = word ++ cs) (hword : isWord word = true) (hcs : endsWord cs = true)
    (hoperator : ∀ operator ∈ ["satisfies", "in", "instanceof", "as"], word ≠ operator.toList) :
    atNameOnly text = false := by
  have hnone {operators : List String} (hsub : operators ⊆ ["satisfies", "in", "instanceof", "as"]) :
      atAnyKeyword operators (word ++ cs) = false := by
    rw [atAnyKeyword, anyKeyword?, List.findSome?_eq_none_iff.2]
    · rfl
    · intro operator hmem
      rw [keyword?, word?_append hword hcs]
      exact if_neg (hoperator operator (hsub hmem))
  have hplace : (word ++ cs).isEmpty = false ∧ asideLength (word ++ cs) = 0 := by
    obtain ⟨c, ds, rfl, -, hparts⟩ := exists_of_isWord hword
    obtain ⟨-, -, hless, hminus, -⟩ := spec_of_isSolid (isSolid_of_isNamePart (hparts c List.mem_cons_self))
    exact ⟨rfl, asideLength_cons hless hminus⟩
  rw [atNameOnly, htext]
  dsimp only
  rw [hrest, hnone, hplace.1, hplace.2]
  · simp
  · split <;> simp

/-- A declaration is kept where nothing behind it can go on with a value. -/
theorem valueOrDeclaration?_of_wrapped? {reader : Reader} {text rest : List Char} {item : Option Item}
    (hline : ahead .expression rest = []) (hwrapped : wrapped? reader reader.steps text = some (item, rest)) :
    valueOrDeclaration? reader text = some (item, rest) := by
  have hcontinues : onlyContinues [] = false := rfl
  rw [valueOrDeclaration?, hwrapped]
  simp only [Option.any_some, hline, hcontinues]
  rfl

/-- A keyword in front of a word that is no operator begins a declaration, which no value follows. -/
theorem statement?_of_wrapped? {reader : Reader} {keyword : String} {word behind rest : List Char}
    {item : Option Item} (hkeyword : keyword ∈ openers) (hends : endsWord behind = true)
    (hbehind : ahead .expression behind = word ++ cs) (hword : isWord word = true) (hcs : endsWord cs = true)
    (hoperator : ∀ operator ∈ ["satisfies", "in", "instanceof", "as"], word ≠ operator.toList)
    (hline : ahead .expression rest = [])
    (hwrapped : wrapped? reader reader.steps (keyword.toList ++ behind) = some (item, rest)) :
    statement? reader (keyword.toList ++ behind) = some (item, rest) := by
  have hkinds : ∀ keyword ∈ openers, statementKeywords.any (keyword.toList == ·.toList) = false ∧
      (keyword.toList == "import".toList) = false := by
    decide
  obtain ⟨hstatement, himport⟩ := hkinds keyword hkeyword
  have hisWord := isWord_of_mem_openers hkeyword
  have htoken : word? (keyword.toList ++ behind) = some (keyword.toList, behind) := word?_append hisWord hends
  have hmark : atMark ":" (ahead .expression behind) = false := by
    rw [hbehind]
    exact atMark_append hword rfl
  have hnameOnly := atNameOnly_of_word? htoken hbehind hword hcs hoperator
  rw [statement?, skip_append hisWord, htoken]
  dsimp only
  unfold wordStatement?
  dsimp only
  simp only [hstatement, hmark, himport, hnameOnly, Bool.false_eq_true, if_false]
  -- what is left depends on whether the keyword can be a name and whether its declaration can be a value
  split
  · exact hwrapped
  · split
    · exact valueOrDeclaration?_of_wrapped? hline hwrapped
    · rw [hwrapped]
      rfl

/-- A statement begins with one of its keywords and a gap behind it. -/
theorem exists_fromWord (statement : Spaced.Statement) (k : List Char) : ∃ keyword ∈ openers, ∃ (gap : Parting) (rest : List Char),
    statement.fromWord ++ k = keyword.toList ++ (gap.text ++ rest) := by
  rw [Spaced.Statement.fromWord]
  cases statement.exported with
  | none =>
    exact ⟨_, keyword_mem_openers statement.decl, statement.behind, statement.decl.behindKeyword ++ k,
      by simp [Spaced.Statement.declText]⟩
  | some gap => exact ⟨_, List.mem_cons_self, gap, statement.declText ++ k, by simp⟩

theorem skip_statement (statement : Spaced.Statement) (k : List Char) :
    skip (statement.printed ++ k) = statement.fromWord ++ k := by
  obtain ⟨keyword, hkeyword, gap, rest, heq⟩ := exists_fromWord statement k
  rw [Spaced.Statement.printed, List.append_assoc, skip_gap, heq, skip_append (isWord_of_mem_openers hkeyword)]

section
variable {decl : Spaced.Declaration} {behind : Parting} (htail : ahead .expression (decl.tail.text ++ '\n' :: k) = [])
include htail

/-- A declaration that is not exported is read up to its last token. -/
theorem statement?_withKeyword (hsteps : (withKeyword decl behind k).length < steps)
    (hdepth : (withKeyword decl behind k).length ≤ depth) :
    statement? (readerWithin steps (depth + 2)) (withKeyword decl behind k) =
      some (some (.declared decl.source), decl.tail.text ++ '\n' :: k) := by
  obtain ⟨name, rest, hrest, hname⟩ := exists_name decl k
  have hkeyword := keyword_mem_openers decl
  have hsub : ["satisfies", "in", "instanceof", "as"] ⊆ keywords := by decide
  obtain ⟨count, rfl⟩ : ∃ count, steps = count + 1 := ⟨steps - 1, by omega⟩
  have hbehind : ahead .expression (behind.text ++ (decl.behindKeyword ++ k)) = name.chars ++ rest := by
    rw [Parting.text, ahead_gap, hname, ahead_append (isWord_chars name)]
  have hlonger : (decl.behindKeyword ++ k).length ≤ (withKeyword decl behind k).length := by
    simp only [withKeyword, List.length_append]
    omega
  have hwrapped : wrapped? (readerWithin (count + 1) (depth + 2)) (count + 1) (withKeyword decl behind k) =
      some (some (.declared decl.source), decl.tail.text ++ '\n' :: k) :=
    wrapped?_of_skip (skip_append (isWord_of_mem_openers hkeyword)) (by omega) (by omega)
  exact statement?_of_wrapped? hkeyword (endsWord_parting behind _) hbehind (isWord_chars name) hrest
    (fun operator hoperator => chars_ne (hsub hoperator)) htail hwrapped

/-- An exported declaration is read up to its last token. -/
theorem statement?_export (gap : Parting)
    (hsteps : ("export".toList ++ (gap.text ++ withKeyword decl behind k)).length < steps)
    (hdepth : ("export".toList ++ (gap.text ++ withKeyword decl behind k)).length ≤ depth) :
    statement? (readerWithin steps (depth + 2)) ("export".toList ++ (gap.text ++ withKeyword decl behind k)) =
      some (some (.declared decl.source), decl.tail.text ++ '\n' :: k) := by
  have hkeyword := keyword_mem_openers decl
  have hisWord := isWord_of_mem_openers hkeyword
  have hbehind : ahead .expression (gap.text ++ withKeyword decl behind k) =
      decl.keyword.toList ++ (behind.text ++ (decl.behindKeyword ++ k)) := by
    rw [Parting.text, ahead_gap, withKeyword, ahead_append hisWord]
  have hoperator : ∀ keyword ∈ openers, ∀ operator ∈ ["satisfies", "in", "instanceof", "as"],
      keyword.toList ≠ operator.toList := by
    decide
  have hexport : "export".toList.length = 6 := rfl
  have hlonger : (decl.behindKeyword ++ k).length + 6 ≤
      ("export".toList ++ (gap.text ++ withKeyword decl behind k)).length := by
    simp only [withKeyword, List.length_append, hexport]
    omega
  obtain ⟨count, rfl⟩ : ∃ count, steps = count + 2 := ⟨steps - 2, by omega⟩
  have hwrapped : wrapped? (readerWithin (count + 2) (depth + 2)) (count + 2)
      ("export".toList ++ (gap.text ++ withKeyword decl behind k)) =
        some (some (.declared decl.source), decl.tail.text ++ '\n' :: k) :=
    wrapped?_export gap (by omega) (by omega)
  exact statement?_of_wrapped? List.mem_cons_self (endsWord_parting gap _) hbehind hisWord
    (endsWord_parting behind _) (hoperator decl.keyword hkeyword) htail hwrapped

end

/-- A statement is read up to its last token. -/
theorem statement?_spaced (statement : Spaced.Statement) (hline : ahead .expression ('\n' :: k) = [])
    (hsteps : (statement.printed ++ k).length < steps) (hdepth : (statement.printed ++ k).length ≤ depth) :
    statement? (readerWithin steps (depth + 2)) (statement.fromWord ++ k) =
      some (some (.declared statement.decl.source), statement.decl.tail.text ++ '\n' :: k) := by
  have htail : ahead .expression (statement.decl.tail.text ++ '\n' :: k) = [] := by rw [ahead_gap, hline]
  have hlonger : (statement.fromWord ++ k).length ≤ (statement.printed ++ k).length := by
    simp only [Spaced.Statement.printed, List.length_append]
    omega
  obtain ⟨lead, exported, decl, behind⟩ := statement
  cases exported with
  | none =>
    have htext : Spaced.Statement.fromWord ⟨lead, none, decl, behind⟩ ++ k = withKeyword decl behind k := by
      simp [Spaced.Statement.fromWord, Spaced.Statement.declText, withKeyword]
    rw [htext] at hlonger ⊢
    exact statement?_withKeyword htail (hlonger.trans_lt hsteps) (hlonger.trans hdepth)
  | some gap =>
    have htext : Spaced.Statement.fromWord ⟨lead, some gap, decl, behind⟩ ++ k =
        "export".toList ++ (gap.text ++ withKeyword decl behind k) := by
      simp [Spaced.Statement.fromWord, Spaced.Statement.declText, withKeyword]
    rw [htext] at hlonger ⊢
    exact statement?_export htail gap (hlonger.trans_lt hsteps) (hlonger.trans hdepth)

/-! ## Scripts -/

/-- The script ends, or goes on with a statement. -/
def BeginsStatement (cs : List Char) : Prop :=
  cs = [] ∨ ∃ (statement : Spaced.Statement) (k : List Char), cs = statement.printed ++ k

theorem beginsStatement_spaced (statements : List Spaced.Statement) :
    BeginsStatement (statements.flatMap Spaced.Statement.printed) := by
  cases statements with
  | nil => exact .inl rfl
  | cons statement statements => exact .inr ⟨statement, _, List.flatMap_cons⟩

/-- A statement begins on a new line and does not go on with the line before. -/
theorem BeginsStatement.endsAt (h : BeginsStatement cs) (follow : Follow) : endsAt follow ('\n' :: cs) = true := by
  rcases h with rfl | ⟨statement, k, rfl⟩
  · rfl
  obtain ⟨keyword, hkeyword, gap, rest, heq⟩ := exists_fromWord statement k
  obtain ⟨c, behind, hgap, hc⟩ := exists_parting gap rest
  have hbreak : endsBehindBreak follow 0 (statement.printed ++ k) = true := by
    rw [Spaced.Statement.printed, List.append_assoc, endsBehindBreak_gap, heq, hgap]
    simp only [openers, List.mem_cons, List.not_mem_nil, or_false] at hkeyword
    rcases hkeyword with rfl | rfl | rfl | rfl | rfl <;> rcases hc with rfl | rfl <;> rfl
  exact hbreak

theorem ahead_line (h : BeginsStatement cs) : ahead .expression ('\n' :: cs) = [] := by
  rw [ahead, h.endsAt]
  rfl

theorem statement_ne_nil (statement : Spaced.Statement) : statement.fromWord ≠ [] := by
  obtain ⟨keyword, hkeyword, gap, rest, heq⟩ := exists_fromWord statement []
  obtain ⟨c, cs, hchars, -⟩ := exists_of_isWord (isWord_of_mem_openers hkeyword)
  rw [List.append_nil] at heq
  rw [heq, hchars]
  exact List.cons_ne_nil _ _

/-- The items of a script are its declarations: each statement takes one step, and the next one begins
behind the line break that it leaves. -/
theorem itemsFrom_spaced {statements : List Spaced.Statement} {count : Nat}
    (hcs : skip cs = skip (statements.flatMap Spaced.Statement.printed)) (hcount : statements.length < count)
    (hsteps : (statements.flatMap Spaced.Statement.printed).length < steps)
    (hdepth : (statements.flatMap Spaced.Statement.printed).length ≤ depth) :
    itemsFrom (readerWithin steps (depth + 2)) count cs =
      statements.map fun statement => .declared statement.decl.source := by
  induction statements generalizing cs count with
  | nil =>
    have hnil : skip [] = [] := rfl
    obtain ⟨count, rfl⟩ : ∃ n, count = n + 1 := ⟨count - 1, by omega⟩
    rw [itemsFrom, hcs, List.flatMap_nil, hnil]
    rfl
  | cons statement statements ih =>
    obtain ⟨count, rfl⟩ : ∃ n, count = n + 1 := ⟨count - 1, by omega⟩
    rw [List.flatMap_cons] at hcs hsteps hdepth
    rw [skip_statement] at hcs
    have hstatement := statement?_spaced statement (ahead_line (beginsStatement_spaced statements)) hsteps hdepth
    have hskip : skip (statement.decl.tail.text ++ '\n' :: statements.flatMap Spaced.Statement.printed) =
        skip (statements.flatMap Spaced.Statement.printed) := skip_gap _ _
    rw [List.length_append] at hsteps hdepth
    rw [List.length_cons] at hcount
    have hrest := ih hskip (by omega : statements.length < count) (by omega) (by omega)
    have hne : statement.fromWord ++ statements.flatMap Spaced.Statement.printed ≠ [] :=
      List.append_ne_nil_of_left_ne_nil (statement_ne_nil statement) _
    obtain ⟨c, ds, hchars⟩ := List.exists_cons_of_ne_nil hne
    rw [itemsFrom, hcs]
    rw [hchars] at hstatement ⊢
    dsimp only
    rw [hstatement]
    exact congrArg _ hrest

/-- The declarations of a script are what was printed, in order. -/
theorem items_spaced (statements : List Spaced.Statement) :
    items (Spaced.script statements) = statements.map fun statement => .declared statement.decl.source := by
  have hplain : withoutHashbang (statements.flatMap Spaced.Statement.printed) =
      statements.flatMap Spaced.Statement.printed := by
    have hmark : atMark "#!" (skip (statements.flatMap Spaced.Statement.printed)) = false := by
      cases statements with
      | nil => rfl
      | cons statement statements =>
        obtain ⟨keyword, hkeyword, gap, rest, heq⟩ :=
          exists_fromWord statement (statements.flatMap Spaced.Statement.printed)
        rw [List.flatMap_cons, skip_statement, heq]
        exact atMark_append (isWord_of_mem_openers hkeyword) rfl
    rw [withoutHashbang, hmark]
    rfl
  have hcount : statements.length ≤ (statements.flatMap Spaced.Statement.printed).length :=
    length_le_length_flatMap (fun statement => List.append_ne_nil_of_right_ne_nil _ (statement_ne_nil statement)) statements
  have hreader (n : Nat) : readerFor n = readerWithin (n + 1) (8 * n + 6 + 2) := rfl
  rw [items, Spaced.script, String.toList_ofList, hreader, hplain]
  exact itemsFrom_spaced rfl (Nat.lt_succ_of_le hcount) (Nat.lt_succ_self _) (by omega)

end

/-! ## Scripts without comments -/

section

/-- A space. -/
def oneSpace : Parting where
  gap := [.space]
  parts := List.mem_cons_self

/-- Names behind a keyword with their spaces for gaps. -/
def spacedClause : (names : List Name) → names.Nodup → Option Spaced.Clause
  | [], _ => none
  | name :: names, distinct => some
    { before := oneSpace
      behind := oneSpace
      first := name
      more := names.map fun name => ([], [.space], name)
      distinct := by simpa [Function.comp_def] using distinct }

theorem listing_spaced (name : Name) (names : List Name) :
    Spaced.Clause.listing name (names.map fun name => ([], [.space], name)) = Written.listing name names := by
  induction names generalizing name with
  | nil => rfl
  | cons next names ih =>
    simp [Spaced.Clause.listing, Written.listing, ih, Gap.text, Spaced.Piece.text]

theorem clauseText_spacedClause (keyword : String) (names : List Name) (distinct : names.Nodup) :
    Spaced.clauseText keyword (spacedClause names distinct) = Written.clause keyword names := by
  cases names with
  | nil => rfl
  | cons name names =>
    have hspace : oneSpace.text = [' '] := rfl
    simp [spacedClause, Spaced.clauseText, Spaced.Clause.printed, Written.clause, hspace, listing_spaced]

theorem clauseNames_spacedClause (names : List Name) (distinct : names.Nodup) :
    Spaced.clauseNames (spacedClause names distinct) = names.map Name.text := by
  cases names with
  | nil => rfl
  | cons name names => simp [spacedClause, Spaced.clauseNames, Spaced.Clause.names, Function.comp_def]

/-- Braces behind a space. -/
def spacedBraces : Spaced.Braces where
  before := [.space]

theorem printed_spacedBraces (lines : List Char) :
    spacedBraces.printed lines = ' ' :: '\x7b' :: '\n' :: lines ++ ['\x7d', '\n'] := rfl

theorem flatMap_spacedProperty (properties : List Written.Property) :
    (properties.map spacedProperty).flatMap Spaced.Property.printed = properties.flatMap Written.Property.printed := by
  simp only [List.flatMap_map, printed_spacedProperty]

theorem filterMap_spacedProperty (properties : List Written.Property) :
    (properties.map spacedProperty).filterMap Spaced.Property.source? = properties.map Written.Property.source := by
  simp only [List.filterMap_map, Function.comp_def, source?_spacedProperty, List.filterMap_eq_map']

/-- A written value with no gap behind its sign. -/
def spacedValue : Written.Value → Spaced.Value
  | .integer (.ofNat n) => .natural n
  | .integer (.negSucc n) => .negative [] (n + 1)
  | .text letters => .text letters

theorem toList_negSucc (n : Nat) : (toString (Int.negSucc n)).toList = '-' :: Nat.toDigits 10 (n + 1) := by
  have hrepr : toString (Int.negSucc n) = "-" ++ (n + 1).repr := rfl
  rw [hrepr, String.toList_append, Nat.toList_repr]
  rfl

theorem printed_spacedValue (value : Written.Value) : (spacedValue value).printed = value.printed := by
  cases value with
  | integer n =>
    cases n with
    | ofNat n => exact Nat.toList_repr.symm
    | negSucc n => exact (toList_negSucc n).symm
  | text letters => rfl

theorem source_spacedValue (value : Written.Value) : (spacedValue value).source = value.source := by
  cases value with
  | integer n =>
    have hprinted := congrArg String.ofList (printed_spacedValue (.integer n))
    rw [Written.Value.printed, String.ofList_toList] at hprinted
    cases n <;> exact hprinted
  | text letters => rfl

/-- A written constant with its spaces for gaps. -/
def spacedConstant (constant : Written.Constant) : Spaced.Constant where
  indent := [.space, .space]
  name := constant.name
  value := constant.value.map fun value => ([.space], [.space], spacedValue value)

theorem printed_spacedConstant (constant : Written.Constant) :
    (spacedConstant constant).printed = constant.printed := by
  obtain ⟨name, value⟩ := constant
  cases value <;>
    simp [spacedConstant, Spaced.Constant.printed, Spaced.Constant.valueText, Written.Constant.printed, Gap.text,
      Spaced.Piece.text, printed_spacedValue]

theorem source_spacedConstant (constant : Written.Constant) : (spacedConstant constant).source = constant.source := by
  obtain ⟨name, value⟩ := constant
  cases value <;> simp [spacedConstant, Spaced.Constant.source, Written.Constant.source, source_spacedValue]

/-- A written declaration with its spaces for gaps. -/
def spacedDeclaration : Written.Declaration → Spaced.Declaration
  | .ofInterface decl => .ofInterface
    { name := decl.name
      bases := spacedClause decl.bases decl.distinct
      braces := spacedBraces
      properties := decl.properties.map spacedProperty }
  | .ofClass decl => .ofClass
    { name := decl.name
      base := decl.base.map fun name => ⟨oneSpace, oneSpace, name⟩
      implements := spacedClause decl.implements decl.distinct
      braces := spacedBraces
      properties := decl.properties.map spacedProperty }
  | .ofEnum decl => .ofEnum
    { name := decl.name
      braces := spacedBraces
      constants := decl.constants.map spacedConstant }
  | .ofAlias decl => .ofAlias
    { name := decl.name
      before := [.space]
      front := [.space]
      target := spacedType decl.target }

theorem keyword_spacedDeclaration (decl : Written.Declaration) : (spacedDeclaration decl).keyword = decl.keyword := by
  cases decl <;> rfl

theorem tail_spacedDeclaration (decl : Written.Declaration) : (spacedDeclaration decl).tail = [] := by
  cases decl <;> rfl

theorem behindKeyword_spacedDeclaration (decl : Written.Declaration) :
    (spacedDeclaration decl).behindKeyword = decl.behindKeyword := by
  cases decl with
  | ofInterface decl =>
    simp [spacedDeclaration, Spaced.Declaration.behindKeyword, Spaced.Interface.printed, clauseText_spacedClause,
      printed_spacedBraces, flatMap_spacedProperty, Written.Declaration.behindKeyword, Written.Interface.printed,
      Written.body]
  | ofClass decl =>
    have hbase : ((decl.base.map fun name => (⟨oneSpace, oneSpace, name⟩ : Spaced.Base)).map Spaced.Base.printed).getD [] =
        Written.clause "extends" decl.base.toList := by
      cases decl.base <;> rfl
    simp only [spacedDeclaration, Spaced.Declaration.behindKeyword, Spaced.Class.printed, hbase]
    simp [clauseText_spacedClause, printed_spacedBraces, flatMap_spacedProperty, Written.Declaration.behindKeyword,
      Written.Class.printed, Written.body]
  | ofEnum decl =>
    simp [spacedDeclaration, Spaced.Declaration.behindKeyword, Spaced.Enum.printed, printed_spacedBraces,
      List.flatMap_map, printed_spacedConstant, Written.Declaration.behindKeyword, Written.Enum.printed]
  | ofAlias decl =>
    simp [spacedDeclaration, Spaced.Declaration.behindKeyword, Spaced.Alias.printed, printed_spacedType, Gap.text,
      Spaced.Piece.text, Written.Declaration.behindKeyword, Written.Alias.printed]

/-- Without comments, a declaration is found as it was written. -/
theorem source_spacedDeclaration (decl : Written.Declaration) : (spacedDeclaration decl).source = decl.source := by
  cases decl with
  | ofInterface decl =>
    simp only [spacedDeclaration, Spaced.Declaration.source, Spaced.Interface.source, clauseNames_spacedClause,
      filterMap_spacedProperty]
    rfl
  | ofClass decl =>
    simp only [spacedDeclaration, Spaced.Declaration.source, Spaced.Class.source, clauseNames_spacedClause,
      filterMap_spacedProperty, Option.map_map]
    rfl
  | ofEnum decl =>
    simp only [spacedDeclaration, Spaced.Declaration.source, Spaced.Enum.source, List.map_map, Function.comp_def,
      source_spacedConstant]
    rfl
  | ofAlias decl =>
    simp only [spacedDeclaration, Spaced.Declaration.source, Spaced.Alias.source, printed_spacedType,
      decl.target.collapse_printed]
    rfl

/-- A written statement with its spaces for gaps. -/
def spacedStatement (statement : Written.Statement) : Spaced.Statement where
  exported := if statement.exported then some oneSpace else none
  decl := spacedDeclaration statement.decl
  behind := oneSpace

theorem fromWord_spacedStatement (statement : Written.Statement) :
    (spacedStatement statement).fromWord = statement.printed := by
  obtain ⟨exported, decl⟩ := statement
  have hspace : oneSpace.text = [' '] := rfl
  cases exported <;>
    simp [spacedStatement, Spaced.Statement.fromWord, Spaced.Statement.declText, keyword_spacedDeclaration,
      behindKeyword_spacedDeclaration, hspace, Written.Statement.printed, Written.Declaration.printed]

theorem printed_spacedStatement (statement : Written.Statement) :
    (spacedStatement statement).printed = statement.printed :=
  fromWord_spacedStatement statement

variable {k : List Char} {steps depth : Nat}

/-- A written statement is read up to the end of its line. -/
theorem statement?_printed (statement : Written.Statement) (hline : ahead .expression ('\n' :: k) = [])
    (hsteps : (statement.printed ++ k).length < steps) (hdepth : (statement.printed ++ k).length ≤ depth) :
    statement? (readerWithin steps (depth + 2)) (statement.printed ++ k) =
      some (some (.declared statement.decl.source), '\n' :: k) := by
  rw [← printed_spacedStatement] at hsteps hdepth
  have hread := statement?_spaced (spacedStatement statement) hline hsteps hdepth
  have hdecl : (spacedStatement statement).decl = spacedDeclaration statement.decl := rfl
  rw [fromWord_spacedStatement, hdecl, source_spacedDeclaration, tail_spacedDeclaration] at hread
  exact hread

/-- The declarations of a script are what was printed, in order. -/
theorem items_script (statements : List Written.Statement) :
    items (Written.script statements) = statements.map fun statement => .declared statement.decl.source := by
  have hscript : Written.script statements = Spaced.script (statements.map spacedStatement) := by
    simp only [Written.script, Spaced.script, List.flatMap_map, printed_spacedStatement]
  have hdecl (statement : Written.Statement) : (spacedStatement statement).decl.source = statement.decl.source :=
    source_spacedDeclaration statement.decl
  rw [hscript, items_spaced, List.map_map]
  exact List.map_congr_left fun statement _ => congrArg Item.declared (hdecl statement)

/-- The interface that is declared, if one is. -/
def Declaration.interface? : Declaration → Option Source.Interface
  | .ofInterface decl => some decl
  | _ => none

/-- The class that is declared, if one is. -/
def Declaration.class? : Declaration → Option Source.Class
  | .ofClass decl => some decl
  | _ => none

/-- The enum that is declared, if one is. -/
def Declaration.enum? : Declaration → Option Source.Enum
  | .ofEnum decl => some decl
  | _ => none

/-- The alias that is declared, if one is. -/
def Declaration.alias? : Declaration → Option Source.Alias
  | .ofAlias decl => some decl
  | _ => none

/-- The file with more declarations behind those that it holds, each kind on its own. -/
theorem foldl_declared (decls : List Declaration) (file : Source.File) :
    (decls.map Item.declared).foldl addItem file =
      { file with
        interfaces := file.interfaces ++ decls.filterMap Declaration.interface?
        classes := file.classes ++ decls.filterMap Declaration.class?
        enums := file.enums ++ decls.filterMap Declaration.enum?
        aliases := file.aliases ++ decls.filterMap Declaration.alias? } := by
  induction decls generalizing file with
  | nil => simp
  | cons decl decls ih =>
    rw [List.map_cons, List.foldl_cons, ih]
    cases decl <;>
      simp [addItem, List.filterMap_cons, Declaration.interface?, Declaration.class?, Declaration.enum?,
        Declaration.alias?]

/-- The file with the declarations of the statements behind what it holds. -/
theorem foldl_addItem (statements : List Written.Statement) (file : Source.File) :
    (statements.map fun statement => Item.declared statement.decl.source).foldl addItem file =
      { file with
        interfaces := file.interfaces ++ (Written.interfaces statements).map Written.Interface.source
        classes := file.classes ++ (Written.classes statements).map Written.Class.source
        enums := file.enums ++ (Written.enums statements).map Written.Enum.source
        aliases := file.aliases ++ (Written.aliases statements).map Written.Alias.source } := by
  have hdeclared := foldl_declared (statements.map fun statement => statement.decl.source) file
  rw [List.map_map] at hdeclared
  refine hdeclared.trans ?_
  simp only [Written.interfaces, Written.classes, Written.enums, Written.aliases, List.filterMap_map,
    List.map_filterMap]
  congr 2
  all_goals
    refine List.filterMap_congr fun statement _ => ?_
    obtain ⟨exported, decl⟩ := statement
    cases decl <;> rfl

end

/-! What two statements look like. -/

example :
    let name (text : String) (valid : Written.isIdentifier text.toList = true) (free : text ∉ Written.keywords) : Name :=
      ⟨text, valid, free⟩
    let pragma : Written.Pragma := ⟨"java.util.Set", by decide⟩
    let ids : Written.Property :=
      ⟨name "ids" (by decide) (by decide), .array (.predefined "string" (by decide)), true, some pragma⟩
    Written.script
        [⟨true, .ofInterface ⟨name "Site" (by decide) (by decide), [name "Base" (by decide) (by decide)], [ids], by simp⟩⟩,
          ⟨false, .ofEnum ⟨name "Level" (by decide) (by decide),
            [⟨name "Low" (by decide) (by decide), some (.integer (-1))⟩, ⟨name "High" (by decide) (by decide), none⟩]⟩⟩] =
      "export interface Site extends Base \x7b\n  ids?: string[]; // javaType: java.util.Set\n\x7d\n" ++
        "enum Level \x7b\n  Low = -1,\n  High,\n\x7d\n" := by
  decide

end BeanGen.Script
