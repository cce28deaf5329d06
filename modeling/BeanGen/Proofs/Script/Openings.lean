import BeanGen.Proofs.Script.Roundtrip
import BeanGen.Script.Salvage

/-!
# In front of an interface

An interface may be exported, declared or both. Whatever words stand in front of its keyword, the statement
is read as the interface behind the keyword is, and if that cannot be read, neither can the statement
(`statement?_opening`); the lenient reader comes to the same place (`looseDeclared?_opening`).
-/

namespace BeanGen.Script

/-- The words in front of the keyword of an interface. -/
inductive Opening where
  | plain
  | exported
  | declared
  | exportedDeclared
  | exportedDefault
  deriving DecidableEq, Repr

/-- The words. -/
def Opening.words : Opening → List String
  | plain => []
  | exported => ["export"]
  | declared => ["declare"]
  | exportedDeclared => ["export", "declare"]
  | exportedDefault => ["export", "default"]

/-- The text with the words and the keyword in front of it. -/
def Opening.before (opening : Opening) (cs : List Char) : List Char :=
  opening.words.foldr (fun word cs => word.toList ++ ' ' :: cs) ("interface".toList ++ ' ' :: cs)

/-- A declaration contributes itself. -/
def contributed (found : Declaration × List Char) : Contribution :=
  (some (.declared found.1), found.2)

/-- The words that such a statement begins with. -/
def openingKeywords : List String := ["interface", "declare", "export"]

/-- Words that are operators behind a name. -/
def operatorKeywords : List String := ["satisfies", "in", "instanceof", "as"]

section
variable {reader : Reader} {cs k rest word : List Char} {steps depth count : Nat} {opening : Opening}

/-! ## As a declaration -/

theorem wrapped?_interface (hcs : skip cs = "interface".toList ++ ' ' :: rest) :
    wrapped? reader (count + 1) cs = (interface? reader (' ' :: rest)).map contributed := by
  have hdecorator : decorator? reader cs = none := by
    rw [decorator?, nextMark?, hcs]
    rfl
  have hexport : nextKeyword? "export" cs = none := by
    rw [nextKeyword?, hcs]
    rfl
  have hdeclare : nextKeyword? "declare" cs = none := by
    rw [nextKeyword?, hcs]
    rfl
  have hword : nextWord? cs = some ("interface".toList, ' ' :: rest) := by
    rw [nextWord?, hcs]
    rfl
  have hkept : keptDeclaration? reader cs = interface? reader (' ' :: rest) := by
    rw [keptDeclaration?, hword]
    rfl
  rw [wrapped?, skipDecorators, repeated_of_none hdecorator, hexport]
  dsimp only
  rw [hdeclare]
  dsimp only
  rw [declaration?, hkept, hword]
  cases interface? reader (' ' :: rest) <;> rfl

/-- What is exported is a declaration, unless it begins like a value, a list or a namespace. -/
theorem exported?_eq (hequals : nextMark? "=" cs = none) (hdefault : nextKeyword? "default" cs = none)
    (hstar : nextMark? "*" cs = none) (hbrace : nextMark? "\x7b" cs = none) (htype : nextKeyword? "type" cs = none)
    (has : nextKeyword? "as" cs = none) : wrapped?.exported? reader count cs = wrapped? reader count cs := by
  rw [wrapped?.exported?, hequals]
  dsimp only
  rw [hdefault]
  dsimp only
  rw [starName?, hstar]
  simp only [specifiers?, hbrace, has, htype]
  rfl

/-- Behind `export` a declaration is read, and so it is behind `declare`. -/
theorem wrapped?_export_eq (hcs : nextKeyword? "export" cs = some rest) (hat : nextMark? "@" cs = none) :
    wrapped? reader (count + 1) cs = wrapped?.exported? reader count rest := by
  have hdecorator : decorator? reader cs = none := by
    rw [decorator?, hat]
    rfl
  rw [wrapped?, skipDecorators, repeated_of_none hdecorator, hcs]

theorem wrapped?_declare_eq (hexport : nextKeyword? "export" cs = none) (hcs : nextKeyword? "declare" cs = some rest)
    (hat : nextMark? "@" cs = none) (hglobal : nextKeyword? "global" rest = none)
    (hmodule : nextKeyword? "module" rest = none) :
    wrapped? reader (count + 1) cs = wrapped? reader count rest := by
  have hdecorator : decorator? reader cs = none := by
    rw [decorator?, hat]
    rfl
  have htyped : typedModule? reader rest = none := by
    rw [typedModule?, hmodule]
    rfl
  rw [wrapped?, skipDecorators, repeated_of_none hdecorator, hexport]
  dsimp only
  rw [hcs]
  dsimp only
  rw [hglobal]
  dsimp only
  rw [htyped]
  rfl

/-! ## As an expression -/

theorem questionMark?_word (hword : isWord word = true) : questionMark? (word ++ cs) = none := by
  have hhead := head?_append_ne (k := cs) hword (by decide : isNamePart '?' = false)
  unfold questionMark?
  split
  · next heq => exact absurd (congrArg List.head? heq) hhead
  · rfl

theorem selection?_word (follow : Follow) (hword : isWord word = true) :
    selection? reader follow (word ++ cs) = none := by
  have hhead {m : Char} (hm : isNamePart m = false) : (word ++ cs).head? ≠ some m := head?_append_ne hword hm
  unfold selection?
  split
  case h_7 => rfl
  all_goals
    next heq => exact absurd (congrArg List.head? heq) (hhead (by decide))

theorem operation?_word {typedArrows assignable : Bool} (follow : Follow) (hword : isWord word = true)
    (hcs : endsWord cs = true) (hoperator : ∀ operator ∈ operatorKeywords, word ≠ operator.toList) :
    operation? reader follow typedArrows assignable (word ++ cs) = none := by
  have hmark {mark : String} (h : isMark mark = true) : mark? mark (word ++ cs) = none := mark?_append hword h
  have hmarks {marks : List String} (h : ∀ mark ∈ marks, isMark mark = true) :
      marks.findSome? (mark? · (word ++ cs)) = none :=
    List.findSome?_eq_none_iff.2 fun mark hmem => hmark (h mark hmem)
  have hwords {words : List String} (h : ∀ operator ∈ words, operator ∈ operatorKeywords) :
      anyKeyword? words (word ++ cs) = none := by
    refine List.findSome?_eq_none_iff.2 fun operator hmem => ?_
    rw [keyword?, word?_append hword hcs]
    exact if_neg (hoperator operator (h operator hmem))
  have hhead {m : Char} (hm : isNamePart m = false) : (word ++ cs).head? ≠ some m := head?_append_ne hword hm
  rw [operation?, hmark rfl, hmark rfl, conditional?, questionMark?_word hword]
  dsimp only [Option.or, Option.bind_eq_bind, Option.bind_none]
  rw [hwords (by decide)]
  dsimp only
  rw [hwords (by decide)]
  dsimp only
  rw [hmarks (by decide)]
  dsimp only
  rw [hmarks (by decide)]
  · exact fun rest heq => hhead (by decide) (congrArg List.head? heq)
  · exact fun rest heq => hhead (by decide) (congrArg List.head? heq)

/-- Nothing goes on with an operand in front of a word that is no operator. -/
theorem further?_word {typedArrows : Bool} (hword : isWord word = true) (hcs : endsWord cs = true)
    (hoperator : ∀ operator ∈ operatorKeywords, word ≠ operator.toList) :
    further? reader .expression typedArrows (.place (' ' :: (word ++ cs))) = none := by
  have hhere : ahead .expression (Reading.place (' ' :: (word ++ cs))).rest = word ++ cs := ahead_append hword
  rw [further?, hhere, selection?_word _ hword, operation?_word _ hword hcs hoperator]
  rfl

/-- No statement ends in front of a word. -/
theorem terminated?_word (hword : isWord word = true) : terminated? .expression (' ' :: (word ++ cs)) = none := by
  have hhere : ahead .expression (' ' :: (word ++ cs)) = word ++ cs := ahead_append hword
  obtain ⟨c, ds, rfl, -, hparts⟩ := exists_of_isWord hword
  have hc : c ≠ ';' := by
    rintro rfl
    exact absurd (hparts ';' List.mem_cons_self) (by decide)
  unfold terminated?
  rw [hhere]
  split
  · next heq => cases heq
  · next heq => exact absurd (List.cons.inj heq).1 hc
  · rfl

theorem wordOperand?_opening {typedArrows : Bool} {keyword : String} (hkeyword : keyword ∈ openingKeywords)
    (hword : isWord word = true) :
    wordOperand? reader .expression typedArrows keyword.toList (' ' :: (word ++ cs)) =
      some (.place (' ' :: (word ++ cs))) := by
  have harrow : atMark "=>" (ahead .expression (' ' :: (word ++ cs))) = false := by
    rw [ahead_space, ahead_append hword, atMark_append hword rfl]
  rw [wordOperand?, harrow]
  simp only [openingKeywords, List.mem_cons, List.not_mem_nil, or_false] at hkeyword
  rcases hkeyword with rfl | rfl | rfl <;> rfl

/-- A keyword with another word behind it is no expression. -/
theorem expression_opening {keyword : String} (hkeyword : keyword ∈ openingKeywords)
    (htext : word? (skip k) = some (keyword.toList, ' ' :: (word ++ cs)))
    (hword : isWord word = true) (hcs : endsWord cs = true)
    (hoperator : ∀ operator ∈ operatorKeywords, word ≠ operator.toList) :
    endedExpression? (readerWithin steps (depth + 1)) k = none ∧
      expressionStatement? (readerWithin steps (depth + 1)) k = none := by
  have hread : (readerWithin steps (depth + 1)).read (.expression .expression true) k =
      (expression? (readerWithin steps depth) .expression true k).map .ending := rfl
  have hcompleted (n : Nat) : completed (readerWithin steps depth) .expression true (fun _ => false) n
      (.place (' ' :: (word ++ cs))) = .place (' ' :: (word ++ cs)) := by
    cases n with
    | zero => rfl
    | succ n =>
      rw [completed, further?_word hword hcs hoperator]
      rfl
  have hexpression : (readerWithin steps (depth + 1)).expression? .expression k = some (' ' :: (word ++ cs)) := by
    rw [Reader.expression?, Reader.rest?, hread, expression?, operand?_word htext, wordOperand?_opening hkeyword hword]
    simp only [Option.bind_eq_bind, Option.bind_some, hcompleted]
    rfl
  have hexpressions (n : Nat) :
      (Reader.expressions?.further (readerWithin steps (depth + 1)) .expression n k).bind (terminated? .expression) =
        none := by
    cases n with
    | zero => rfl
    | succ n =>
      have hhere : ahead .expression (' ' :: (word ++ cs)) = word ++ cs := ahead_append hword
      have hcomma : (word ++ cs).head? ≠ some ',' := head?_append_ne hword (by decide)
      rw [Reader.expressions?.further, hexpression]
      simp only [Option.bind_eq_bind, Option.bind_some, hhere]
      split
      · next heq => exact absurd (congrArg List.head? heq) hcomma
      · exact terminated?_word hword
  constructor
  · rw [endedExpression?, hexpression]
    exact terminated?_word hword
  · exact hexpressions _

/-! ## As a statement -/

/-- The interface is read as it is behind the keyword. -/
theorem wrapped?_opening (opening : Opening) (hword : isWord word = true) (hcs : endsWord cs = true)
    (hoperator : ∀ operator ∈ operatorKeywords, word ≠ operator.toList) :
    wrapped? (readerWithin steps (depth + 1)) (count + 3) (opening.before (word ++ cs)) =
      (interface? (readerWithin steps (depth + 1)) (' ' :: (word ++ cs))).map contributed := by
  have hinterface (count : Nat) : wrapped? (readerWithin steps (depth + 1)) (count + 1)
      (' ' :: ("interface".toList ++ ' ' :: (word ++ cs))) =
      (interface? (readerWithin steps (depth + 1)) (' ' :: (word ++ cs))).map contributed :=
    wrapped?_interface rfl
  have hdeclared (count : Nat) : wrapped? (readerWithin steps (depth + 1)) (count + 2)
      (' ' :: ("declare".toList ++ ' ' :: ("interface".toList ++ ' ' :: (word ++ cs)))) =
      (interface? (readerWithin steps (depth + 1)) (' ' :: (word ++ cs))).map contributed :=
    (wrapped?_declare_eq rfl rfl rfl rfl rfl).trans (hinterface count)
  cases opening with
  | plain => exact wrapped?_interface rfl
  | declared => exact (wrapped?_declare_eq rfl rfl rfl rfl rfl).trans (hinterface _)
  | exported =>
    exact (wrapped?_export_eq rfl rfl).trans ((exported?_eq rfl rfl rfl rfl rfl rfl).trans (hinterface _))
  | exportedDeclared =>
    exact (wrapped?_export_eq rfl rfl).trans ((exported?_eq rfl rfl rfl rfl rfl rfl).trans (hdeclared _))
  | exportedDefault =>
    -- a value is exported by default, too, but this is none
    have hclass : valueClass? (readerWithin steps (depth + 1))
        (' ' :: ("interface".toList ++ ' ' :: (word ++ cs))) = none := by
      rw [valueClass?, skipDecorators, repeated_of_none rfl]
      rfl
    have hvalue : endedExpression? (readerWithin steps (depth + 1))
        (' ' :: ("interface".toList ++ ' ' :: (word ++ cs))) = none :=
      (expression_opening (by decide : "interface" ∈ openingKeywords) rfl hword hcs hoperator).1
    have hexported : wrapped?.exported? (readerWithin steps (depth + 1)) (count + 2)
        (' ' :: ("default".toList ++ ' ' :: ("interface".toList ++ ' ' :: (word ++ cs)))) =
        (wrapped? (readerWithin steps (depth + 1)) (count + 2)
          (' ' :: ("interface".toList ++ ' ' :: (word ++ cs)))).or none := by
      have hdefault : nextKeyword? "default" (' ' :: ("default".toList ++ ' ' :: ("interface".toList ++ ' ' :: (word ++ cs)))) =
          some (' ' :: ("interface".toList ++ ' ' :: (word ++ cs))) := rfl
      have hequals : nextMark? "=" (' ' :: ("default".toList ++ ' ' :: ("interface".toList ++ ' ' :: (word ++ cs)))) = none := rfl
      rw [wrapped?.exported?, hequals]
      dsimp only
      rw [hdefault]
      dsimp only
      rw [hclass, hvalue]
      rfl
    exact (wrapped?_export_eq rfl rfl).trans (hexported.trans (Option.or_none.trans (hinterface _)))

theorem ahead_behindSpace (hword : isWord word = true) : ahead .expression (' ' :: (word ++ cs)) = word ++ cs := by
  rw [ahead_space, ahead_append hword]

/-- A keyword in front of a word that is no operator begins a declaration and nothing else. -/
theorem statement?_of_opening {keyword : String} {text : List Char} (hkeyword : keyword ∈ openingKeywords)
    (htext : text = keyword.toList ++ ' ' :: (word ++ cs)) (hword : isWord word = true) (hcs : endsWord cs = true)
    (hoperator : ∀ operator ∈ operatorKeywords, word ≠ operator.toList) :
    statement? (readerWithin steps (depth + 1)) text = wrapped? (readerWithin steps (depth + 1)) steps text := by
  have hkinds : ∀ keyword ∈ openingKeywords, isWord keyword.toList = true ∧
      statementKeywords.any (keyword.toList == ·.toList) = false ∧
      (keyword.toList == "import".toList) = false ∧
      ["class", "function", "async"].any (keyword.toList == ·.toList) = false := by
    decide
  obtain ⟨hisWord, hstatement, himport, hvalue⟩ := hkinds keyword hkeyword
  have htoken : word? text = some (keyword.toList, ' ' :: (word ++ cs)) := by
    rw [htext]
    exact word?_append hisWord rfl
  have hskip : skip text = text := by
    rw [htext]
    exact skip_append hisWord
  have hmark : atMark ":" (ahead .expression (' ' :: (word ++ cs))) = false := by
    rw [ahead_behindSpace hword]
    exact atMark_append hword rfl
  have hnameOnly := atNameOnly_of_word? htoken (ahead_behindSpace hword) hword hcs hoperator
  have hexpression : expressionStatement? (readerWithin steps (depth + 1)) text = none :=
    (expression_opening hkeyword ((congrArg word? hskip).trans htoken) hword hcs hoperator).2
  rw [statement?, hskip, htoken]
  dsimp only
  unfold wordStatement?
  dsimp only
  simp only [hstatement, hmark, himport, hnameOnly, hvalue, hexpression, Bool.false_eq_true, if_false]
  split
  · rfl
  · exact Option.or_none

/-- The statement begins with a keyword and a word that is no operator. -/
theorem exists_front (opening : Opening) (hword : isWord word = true) (hcs : endsWord cs = true)
    (hoperator : ∀ operator ∈ operatorKeywords, word ≠ operator.toList) :
    ∃ keyword ∈ openingKeywords, ∃ next rest,
      opening.before (word ++ cs) = keyword.toList ++ ' ' :: (next ++ rest) ∧
        isWord next = true ∧ endsWord rest = true ∧ ∀ operator ∈ operatorKeywords, next ≠ operator.toList := by
  cases opening with
  | plain => exact ⟨"interface", by decide, word, cs, rfl, hword, hcs, hoperator⟩
  | exported =>
    exact ⟨"export", by decide, "interface".toList, ' ' :: (word ++ cs), rfl, rfl, rfl, by decide⟩
  | declared =>
    exact ⟨"declare", by decide, "interface".toList, ' ' :: (word ++ cs), rfl, rfl, rfl, by decide⟩
  | exportedDeclared =>
    exact ⟨"export", by decide, "declare".toList, ' ' :: ("interface".toList ++ ' ' :: (word ++ cs)), rfl, rfl, rfl, by decide⟩
  | exportedDefault =>
    exact ⟨"export", by decide, "default".toList, ' ' :: ("interface".toList ++ ' ' :: (word ++ cs)), rfl, rfl, rfl, by decide⟩

/-- Whatever stands in front of its keyword, the statement is the interface. -/
theorem statement?_opening (opening : Opening) (hsteps : 3 ≤ steps) (hword : isWord word = true)
    (hcs : endsWord cs = true) (hoperator : ∀ operator ∈ operatorKeywords, word ≠ operator.toList) :
    statement? (readerWithin steps (depth + 1)) (opening.before (word ++ cs)) =
      (interface? (readerWithin steps (depth + 1)) (' ' :: (word ++ cs))).map contributed := by
  obtain ⟨keyword, hkeyword, next, rest, htext, hnext, hrest, hfree⟩ := exists_front opening hword hcs hoperator
  obtain ⟨count, rfl⟩ : ∃ count, steps = count + 3 := ⟨steps - 3, by omega⟩
  rw [statement?_of_opening hkeyword htext hnext hrest hfree]
  exact wrapped?_opening opening hword hcs hoperator

/-! ## Read leniently -/

theorem skipLooseDecorators_eq (hat : nextMark? "@" cs = none) : skipLooseDecorators reader cs = cs := by
  have hdecorator : decorator? reader cs = none := by
    rw [decorator?, hat]
    rfl
  refine repeated_of_none ?_ _
  rw [hat, hdecorator]
  rfl

theorem looseDeclaration?_interface {isValue : Bool} (hcs : skip cs = "interface".toList ++ ' ' :: rest) :
    looseDeclaration? reader isValue cs = looseInterface? reader (' ' :: rest) := by
  have hword : nextWord? cs = some ("interface".toList, ' ' :: rest) := by
    rw [nextWord?, hcs]
    rfl
  rw [looseDeclaration?, hword]
  rfl

theorem looseDeclared?_export (hat : nextMark? "@" cs = none) (hname : atNameOnly (skip cs) = false)
    (hexport : nextKeyword? "export" cs = some rest) (hequals : nextMark? "=" rest = none)
    (hrest : skipKeyword "declare" (skipKeyword "default" rest) = k) (hk : nextMark? "@" k = none) :
    looseDeclared? reader cs = looseDeclaration? reader false k := by
  rw [looseDeclared?, skipLooseDecorators_eq hat, hname, hexport]
  simp only [Bool.false_eq_true, if_false, hequals, Option.filter_none, hrest, skipLooseDecorators_eq hk]

/-- Behind `export` other words may stand in front of the interface. -/
theorem looseDeclared?_exported (hname : atNameOnly (skip cs) = false) (hat : nextMark? "@" cs = none)
    (hexport : nextKeyword? "export" cs = some rest) (hequals : nextMark? "=" rest = none)
    (hrest : skipKeyword "declare" (skipKeyword "default" rest) = ' ' :: ("interface".toList ++ ' ' :: k)) :
    looseDeclared? reader cs = looseInterface? reader (' ' :: k) :=
  (looseDeclared?_export hat hname hexport hequals hrest rfl).trans (looseDeclaration?_interface rfl)

theorem nextKeyword?_word {keyword : String} (hword : isWord word = true) (hcs : endsWord cs = true) :
    nextKeyword? keyword (' ' :: (word ++ cs)) = if word = keyword.toList then some cs else none := by
  have hskip : skip (' ' :: (word ++ cs)) = word ++ cs := skip_append hword
  rw [nextKeyword?, hskip, keyword?, word?_append hword hcs]

theorem skipKeyword_self (keyword : String) (hkeyword : isWord keyword.toList = true) (k : List Char) :
    skipKeyword keyword (' ' :: (keyword.toList ++ ' ' :: k)) = ' ' :: k := by
  rw [skipKeyword, nextKeyword?_word hkeyword rfl, if_pos rfl]
  rfl

theorem skipKeyword_other {keyword : String} (hword : isWord word = true) (hne : word ≠ keyword.toList)
    (k : List Char) : skipKeyword keyword (' ' :: (word ++ ' ' :: k)) = ' ' :: (word ++ ' ' :: k) := by
  rw [skipKeyword, nextKeyword?_word hword rfl, if_neg hne]
  rfl

/-- The lenient reader finds the interface behind the same words. -/
theorem looseDeclared?_opening (opening : Opening) (hword : isWord word = true) (hcs : endsWord cs = true)
    (hoperator : ∀ operator ∈ operatorKeywords, word ≠ operator.toList) :
    looseDeclared? reader (opening.before (word ++ cs)) = looseInterface? reader (' ' :: (word ++ cs)) := by
  obtain ⟨keyword, hkeyword, next, rest, htext, hnext, hrest, hfree⟩ := exists_front opening hword hcs hoperator
  have hisWord : ∀ keyword ∈ openingKeywords, isWord keyword.toList = true := by decide
  have hname : atNameOnly (skip (opening.before (word ++ cs))) = false := by
    rw [htext, skip_append (hisWord keyword hkeyword)]
    exact atNameOnly_of_word? (word?_append (hisWord keyword hkeyword) rfl) (ahead_behindSpace hnext) hnext hrest hfree
  cases opening with
  | plain =>
    have hexport : nextKeyword? "export" (Opening.plain.before (word ++ cs)) = none := rfl
    have hdeclare : nextKeyword? "declare" (Opening.plain.before (word ++ cs)) = none := rfl
    rw [looseDeclared?, skipLooseDecorators_eq rfl, hname, hexport, hdeclare]
    exact looseDeclaration?_interface rfl
  | declared =>
    have hexport : nextKeyword? "export" (Opening.declared.before (word ++ cs)) = none := rfl
    have hdeclare : nextKeyword? "declare" (Opening.declared.before (word ++ cs)) =
        some (' ' :: ("interface".toList ++ ' ' :: (word ++ cs))) := rfl
    rw [looseDeclared?, skipLooseDecorators_eq rfl, hname, hexport, hdeclare]
    exact looseDeclaration?_interface rfl
  | exported =>
    have hexport : nextKeyword? "export" (Opening.exported.before (word ++ cs)) =
        some (' ' :: ("interface".toList ++ ' ' :: (word ++ cs))) := rfl
    have hdefault : skipKeyword "default" (' ' :: ("interface".toList ++ ' ' :: (word ++ cs))) =
        ' ' :: ("interface".toList ++ ' ' :: (word ++ cs)) := skipKeyword_other rfl (by decide) _
    refine looseDeclared?_exported hname rfl hexport rfl ?_
    rw [hdefault]
    exact skipKeyword_other rfl (by decide) _
  | exportedDeclared =>
    have hexport : nextKeyword? "export" (Opening.exportedDeclared.before (word ++ cs)) =
        some (' ' :: ("declare".toList ++ ' ' :: ("interface".toList ++ ' ' :: (word ++ cs)))) := rfl
    refine looseDeclared?_exported hname rfl hexport rfl ?_
    rw [skipKeyword_other (rfl : isWord "declare".toList = true) (by decide)]
    exact skipKeyword_self "declare" rfl _
  | exportedDefault =>
    have hexport : nextKeyword? "export" (Opening.exportedDefault.before (word ++ cs)) =
        some (' ' :: ("default".toList ++ ' ' :: ("interface".toList ++ ' ' :: (word ++ cs)))) := rfl
    refine looseDeclared?_exported hname rfl hexport rfl ?_
    rw [skipKeyword_self "default" rfl]
    exact skipKeyword_other rfl (by decide) _

end

end BeanGen.Script
