import BeanGen.Proofs.Script.WrittenLines
import BeanGen.Proofs.Text.Squeeze

/-!
# Reading written declarations

Behind its keyword, an interface, a class or an alias is read up to the end of its text, whatever the gaps
between its tokens hold. The names of a clause are distinct, so none is left out. Comments stay in the text
of an alias, but nothing is lost of it.
-/

namespace BeanGen.Script

open Written (Name keywords)
open Spaced (Gap Piece Parting Property Braces Clause clauseText clauseNames)

/-! ## What follows a name -/

section
variable {cs k : List Char} {marks : List Char} {words : List String}

/-- The next token is one of these marks, or one of these words with a gap behind it; and so it is wherever
it is looked for. -/
structure AtToken (marks : List Char) (words : List String) (cs : List Char) : Prop where
  endsWord : endsWord cs = true
  token : ∃ rest, skip cs = rest ∧ (∀ follow, ahead follow cs = rest) ∧
    ((∃ mark ∈ marks, rest.head? = some mark) ∨
      ∃ word ∈ words, isWord word.toList = true ∧
        ∃ c behind, rest = word.toList ++ c :: behind ∧ (c = ' ' ∨ c = '/'))

theorem atToken_mark {mark : Char} (gap : Gap) (hmark : mark ∈ marks)
    (hsolid : isSolid mark = true ∧ endsWord [mark] = true) (k : List Char) :
    AtToken marks words (gap.text ++ mark :: k) where
  endsWord := endsWord_gap gap (k := mark :: k) hsolid.2
  token := ⟨mark :: k, by rw [skip_gap, skip_cons hsolid.1], fun follow => by rw [ahead_gap, ahead_cons hsolid.1],
    .inl ⟨mark, hmark, rfl⟩⟩

theorem exists_parting (parting : Parting) (k : List Char) :
    ∃ c rest, parting.text ++ k = c :: rest ∧ (c = ' ' ∨ c = '/') := by
  obtain ⟨gap, hparts⟩ := parting
  cases gap with
  | nil => cases hparts
  | cons piece gap =>
    rw [Parting.text, gap_cons]
    cases piece with
    | space => exact ⟨_, _, rfl, .inl rfl⟩
    | comment _ => exact ⟨_, _, rfl, .inr rfl⟩

theorem clauseText_append (keyword : String) (clause : Clause) (k : List Char) :
    clauseText keyword (some clause) ++ k = clause.before.text ++ (keyword.toList ++
      (clause.behind.text ++ (Clause.listing clause.first clause.more ++ k))) := by
  simp [clauseText, Clause.printed]

/-- A clause that may be missing begins with its keyword, or it is the rest that begins. -/
theorem atToken_clauseText {keyword : String} (clause : Option Clause) (hmem : keyword ∈ words)
    (hkeyword : isWord keyword.toList = true) (hk : AtToken marks words k) :
    AtToken marks words (clauseText keyword clause ++ k) := by
  cases clause with
  | none => exact hk
  | some clause =>
    obtain ⟨c, rest, hbehind, hc⟩ := exists_parting clause.behind (Clause.listing clause.first clause.more ++ k)
    rw [clauseText_append, hbehind]
    refine ⟨endsWord_parting clause.before _, keyword.toList ++ c :: rest, ?_, fun follow => ?_,
      .inr ⟨keyword, hmem, hkeyword, c, rest, rfl, hc⟩⟩
    · rw [Parting.text, skip_gap, skip_append hkeyword]
    · rw [Parting.text, ahead_gap, ahead_append hkeyword]

theorem AtToken.mono {marks' : List Char} {words' : List String} (h : AtToken marks words cs) (hmarks : marks ⊆ marks')
    (hwords : words ⊆ words') : AtToken marks' words' cs := by
  obtain ⟨hends, rest, hskip, hahead, htoken⟩ := h
  refine ⟨hends, rest, hskip, hahead, htoken.imp ?_ ?_⟩
  · exact fun ⟨mark, hmark, hhead⟩ => ⟨mark, hmarks hmark, hhead⟩
  · exact fun ⟨word, hword, hrest⟩ => ⟨word, hwords hword, hrest⟩

theorem AtToken.nextMark? (h : AtToken marks words cs) {mark : String} {m : Char}
    (hmark : mark.toList.head? = some m) (hm : m ∉ marks) (hpart : isNamePart m = false) :
    nextMark? mark cs = none := by
  obtain ⟨-, rest, hskip, -, htoken⟩ := h
  rw [Script.nextMark?, hskip]
  refine mark?_of_head? hmark fun heq => ?_
  rcases htoken with ⟨mark, hmem, hhead⟩ | ⟨word, -, hword, c, behind, rfl, -⟩
  · obtain rfl := Option.some.inj (heq.symm.trans hhead)
    exact hm hmem
  · exact head?_append_ne hword hpart heq

theorem AtToken.nextKeyword? (h : AtToken marks words cs) {keyword : String} (hmem : keyword ∉ words)
    (hmarks : ∀ mark ∈ marks, isNamePart mark = false ∧ mark ≠ '\\') : nextKeyword? keyword cs = none := by
  obtain ⟨-, rest, hskip, -, htoken⟩ := h
  rw [Script.nextKeyword?, hskip, keyword?]
  rcases htoken with ⟨mark, hmark, hhead⟩ | ⟨word, hword, hisWord, c, behind, rfl, hc⟩
  · obtain ⟨behind, rfl⟩ := List.head?_eq_some_iff.1 hhead
    obtain ⟨hpart, hslash⟩ := hmarks mark hmark
    have hlength : nameLength (mark :: behind) = 0 := by
      rw [nameLength]
      split
      · rfl
      · exact namePartsLength_append (w := []) (fun _ hmem => by cases hmem) (by simp [Script.endsWord, hpart, hslash])
    rw [word?, hlength]
    rfl
  · have hends : Script.endsWord (c :: behind) = true := by
      rcases hc with rfl | rfl <;> rfl
    rw [word?_append hisWord hends]
    refine if_neg fun heq => hmem ?_
    obtain rfl := String.toList_inj.1 heq
    exact hword

/-- Neither a clause nor a body begins with type parameters. -/
theorem AtToken.optionalTypeParameters? {reader : Reader} (h : AtToken ['\x7b'] words cs) :
    optionalTypeParameters? reader cs = some cs := by
  have hangle : Script.nextMark? "<" cs = none := h.nextMark? rfl (by decide) (by decide)
  rw [Script.nextMark?] at hangle
  rw [Script.optionalTypeParameters?, atMark_eq, hangle]
  rfl

end

/-! ## Clauses -/

section
variable {reader : Reader} {base? : List Char → Option Base} {k cs : List Char} {earlier words : List String}
  {name : Name}

theorem asidesFrom_name (gap : Gap) (name : Name) (k : List Char) :
    asidesFrom 0 (gap.text ++ (name.chars ++ k)) = [] := by
  obtain ⟨c, cs, hchars, -, hparts⟩ := isIdentifier_chars name
  have hsolid : isSolid c = true := Java.of_isNamePart (hparts c List.mem_cons_self) (by decide)
  obtain ⟨hspace, hslash, hless, hminus, -, -, hgap⟩ := spec_of_isSolid hsolid
  rw [asidesFrom_gap, hchars, List.cons_append, asidesFrom, if_neg (by simp [hspace]), commentLength_cons hslash,
    asideLength_cons hless hminus, gapLength, if_neg hgap]
  rfl

theorem skip_name (gap : Gap) (name : Name) (k : List Char) :
    skip (gap.text ++ (name.chars ++ k)) = name.chars ++ k := by
  rw [skip_gap, skip_append (isWord_chars name)]

theorem baseName_chars (name : Name) : baseName name.chars = name.text := by
  have hangle : '<' ∉ name.chars := fun hmem => by
    have h := isNamePart_of_mem_chars hmem
    revert h
    decide
  have hhead : name.chars.head? ≠ some '<' := fun heq => hangle (List.mem_of_mem_head? heq)
  have hblanks : Text.dropBlanks name.chars = name.chars :=
    List.filter_eq_self.2 fun c hc => by rw [Written.isBlank_of_mem_chars hc]; rfl
  rw [baseName, if_neg hhead, Text.before_of_notMem hangle, hblanks, Name.chars, String.ofList_toList]

theorem addName_text (h : name.text ∉ earlier) : addName earlier name.text = earlier ++ [name.text] := by
  have hempty : name.text ≠ "" := by
    obtain ⟨c, cs, hchars, -⟩ := isIdentifier_chars name
    intro heq
    rw [Name.chars, heq] at hchars
    cases hchars
  rw [addName, if_neg (by simp [hempty, h])]

/-- One entry of a clause is read, and then, if a comma follows, the others. -/
theorem bases?_step {count : Nat} (gap : Gap) (hbase : base? (name.chars ++ k) = some (.whole k))
    (hnew : name.text ∉ earlier) :
    bases? base? (count + 1) earlier (gap.text ++ (name.chars ++ k)) =
      match nextMark? "," k with
      | some rest => bases? base? count (earlier ++ [name.text]) rest
      | none => some (earlier ++ [name.text], k) := by
  rw [bases?, skip_name, hbase]
  simp only [Option.bind_eq_bind, Option.bind_some, Base.whole, textBefore_append, asidesFrom_name,
    name.hasGap_chars, Bool.false_eq_true, if_false, List.nil_append, List.foldl_cons, List.foldl_nil,
    baseName_chars, addName_text hnew]
  rfl

/-- All names of a clause are read, each as an entry of its own. -/
theorem bases?_listing {more : List (Gap × Gap × Name)} {count size : Nat} (gap : Gap)
    (hbase : ∀ (name : Name) (k' : List Char), AtToken ['\x7b', ','] words k' →
      (name.chars ++ k').length ≤ size → base? (name.chars ++ k') = some (.whole k'))
    (hk : AtToken ['\x7b'] words k) (hsize : (Clause.listing name more ++ k).length ≤ size)
    (hdistinct : (earlier ++ (name :: more.map fun entry => entry.2.2).map Name.text).Nodup)
    (hcount : more.length ≤ count) :
    bases? base? (count + 1) earlier (gap.text ++ (Clause.listing name more ++ k)) =
      some (earlier ++ (name :: more.map fun entry => entry.2.2).map Name.text, k) := by
  have hnew : name.text ∉ earlier := fun hmem =>
    (List.nodup_append.1 hdistinct).2.2 _ hmem _ (by simp) rfl
  induction more generalizing name earlier count gap with
  | nil =>
    rw [Clause.listing] at hsize ⊢
    rw [bases?_step gap (hbase name k (hk.mono (by simp) fun _ => id) hsize) hnew,
      hk.nextMark? rfl (by decide) (by decide)]
    rfl
  | cons entry more ih =>
    obtain ⟨before, behind, next⟩ := entry
    have hcomma (cs : List Char) : nextMark? "," (before.text ++ ',' :: cs) = some cs := by
      rw [nextMark?, skip_gap]
      rfl
    obtain ⟨count, rfl⟩ : ∃ m, count = m + 1 := ⟨count - 1, by simp at hcount; omega⟩
    simp only [Clause.listing, List.append_assoc, List.cons_append] at hsize ⊢
    have hdistinct' : (earlier ++ [name.text] ++
        (next :: more.map fun entry => entry.2.2).map Name.text).Nodup := by
      simpa using hdistinct
    rw [bases?_step gap (hbase name _ (atToken_mark before (by simp) (by decide) _) hsize) hnew, hcomma]
    dsimp only
    rw [ih behind (by simp only [List.length_append, List.length_cons] at hsize ⊢; omega) hdistinct'
      (by simpa using hcount) fun hmem => (List.nodup_append.1 hdistinct').2.2 _ hmem _ (by simp) rfl]
    simp

theorem length_listing_le (name : Name) (more : List (Gap × Gap × Name)) :
    more.length ≤ (Clause.listing name more).length := by
  induction more generalizing name with
  | nil => exact Nat.zero_le _
  | cons entry more ih =>
    obtain ⟨before, behind, next⟩ := entry
    have := ih next
    simp only [Clause.listing, List.length_append, List.length_cons]
    omega

/-- A keyword is found behind a gap. -/
theorem nextKeyword?_gap {keyword : String} (gap : Gap) (hkeyword : isWord keyword.toList = true)
    (hk : endsWord k = true) : nextKeyword? keyword (gap.text ++ (keyword.toList ++ k)) = some k := by
  rw [nextKeyword?, skip_gap, skip_append hkeyword, keyword?, word?_append hkeyword hk]
  exact if_pos rfl

/-- The names of a clause are read up to what follows it. -/
theorem clause?_spaced {keyword : String} {clause : Option Clause} (hkeyword : isWord keyword.toList = true)
    (hmem : keyword ∉ words) (hk : AtToken ['\x7b'] words k)
    (hbase : ∀ (name : Name) (k' : List Char), AtToken ['\x7b', ','] words k' →
      (name.chars ++ k').length ≤ (clauseText keyword clause ++ k).length →
      base? (name.chars ++ k') = some (.whole k'))
    (hsteps : (clauseText keyword clause ++ k).length < reader.steps) :
    clause? reader keyword base? (clauseText keyword clause ++ k) = some (clauseNames clause, k) := by
  cases clause with
  | none =>
    have htext : clauseText keyword none ++ k = k := rfl
    rw [htext, clause?, hk.nextKeyword? hmem (List.forall_mem_singleton.2 (by decide))]
    rfl
  | some clause =>
    have hcount := length_listing_le clause.first clause.more
    rw [clauseText_append] at hbase hsteps ⊢
    simp only [List.length_append] at hsteps
    obtain ⟨count, hcount'⟩ : ∃ m, reader.steps = m + 1 := ⟨reader.steps - 1, by omega⟩
    rw [clause?, Parting.text, nextKeyword?_gap _ hkeyword (endsWord_parting clause.behind _)]
    dsimp only
    rw [hcount']
    refine bases?_listing clause.behind.gap hbase hk ?_ ?_ (by omega)
    · simp only [List.length_append]
      omega
    · exact List.pairwise_map.2 (clause.distinct.imp fun hne heq => hne (Written.Name.ext heq))

end

/-! ## Bases -/

section
variable {reader : Reader} {k : List Char} {name : Name} {words : List String} {steps depth : Nat}

theorem interfaceBase?_name (hk : AtToken ['\x7b', ','] words k) :
    interfaceBase? reader (name.chars ++ k) = some (.whole k) := by
  have hword : nextWord? (name.chars ++ k) = some (name.chars, k) :=
    nextWord?_of_skip (skip_append (isWord_chars name)) hk.endsWord
  have hselected : skipSelected reader.steps k = k := by
    refine repeated_of_none ?_ _
    rw [hk.nextMark? rfl (by decide) (by decide)]
    rfl
  have hangle : atMark "<" (skip k) = false := by
    have hnone : nextMark? "<" k = none := hk.nextMark? rfl (by decide) (by decide)
    rw [nextMark?] at hnone
    rw [atMark_eq, hnone]
    rfl
  rw [interfaceBase?, hword]
  simp only [Option.bind_eq_bind, Option.bind_some, hselected, hangle, Bool.false_eq_true, if_false]
  rfl

theorem AtToken.endsType {follow : Follow} (hk : AtToken ['\x7b', ','] [] k) : endsType follow k = true := by
  obtain ⟨hends, rest, -, hahead, htoken⟩ := hk
  rw [Script.endsType, hends, hahead]
  rcases htoken with ⟨mark, hmark, hhead⟩ | ⟨word, hword, -⟩
  · rw [hhead]
    exact List.contains_iff_mem.2 ((by decide : ['\x7b', ','] ⊆ [',', '>', ';', '\x7b']) hmark)
  · cases hword

/-- An implemented name is read as a type. -/
theorem implementedType?_name (hk : AtToken ['\x7b', ','] [] k) (hsteps : (name.chars ++ k).length ≤ steps)
    (hdepth : name.chars.length ≤ depth) :
    implementedType? (readerWithin steps (depth + 1)) (name.chars ++ k) = some (.whole k) := by
  have htype : (readerWithin steps (depth + 1)).type? .bracketed (name.chars ++ k) = some k :=
    type?_readerWithin (type?_spaced (.named name) rfl hk.endsType (skip_append (isWord_chars name)) hsteps hdepth)
  rw [implementedType?, htype]
  simp only [Option.bind_eq_bind, Option.bind_some, textBefore_append, chars_ne (by decide : "const" ∈ keywords),
    if_false]
  rfl

/-- A name that an expression may begin with is all of its operand. -/
theorem wordOperand?_name (harrow : atMark "=>" (ahead .operand k) = false) :
    wordOperand? reader .operand true name.chars k = some (.place k) := by
  have hword {word : String} (h : word ∈ keywords) : ¬(name.chars == word.toList) = true := by
    rw [beq_chars h]
    simp
  have hwords {words : List String} (h : ∀ word ∈ words, word ∈ keywords) :
      ¬(words.any fun word => name.chars == word.toList) = true := by
    simp only [List.any_eq_true, not_exists, not_and]
    exact fun word hmem => hword (h word hmem)
  rw [wordOperand?, harrow]
  rw [if_neg (hwords (by decide)), if_neg (hword (by decide)), if_neg (hword (by decide)),
    if_neg (hword (by decide)), if_neg (hword (by decide)), if_neg (hword (by decide)),
    if_neg (hwords (by decide))]
  simp only [Bool.false_eq_true, if_false]
  rw [if_neg (hword (by decide)), if_neg (hword (by decide)), if_neg (hword (by decide))]

theorem operand?_word {follow : Follow} {typedArrows : Bool} {cs w : List Char}
    (h : word? (skip cs) = some (w, k)) :
    operand? reader follow typedArrows cs = wordOperand? reader follow typedArrows w k := by
  unfold operand?
  dsimp only
  rw [h]

/-- The base of a class is read as an expression that nothing goes on with. -/
theorem classBase?_name (hk : AtToken ['\x7b', ','] ["implements"] k) :
    classBase? reader (name.chars ++ k) = some (.whole k) := by
  have hword : word? (skip (name.chars ++ k)) = some (name.chars, k) := by
    rw [skip_append (isWord_chars name), word?_append (isWord_chars name) hk.endsWord]
  have hargs : typeArguments? reader k = none := by
    rw [typeArguments?, hk.nextMark? rfl (by decide) (by decide)]
    rfl
  have hstops : atLastTypeArguments reader k = false := by
    rw [atLastTypeArguments, hargs]
  obtain ⟨-, rest, -, hahead, htoken⟩ := hk
  have hoperator : atMark "=>" rest = false ∧
      (selection? reader .operand rest).or (operation? reader .operand true true rest) = none := by
    rcases htoken with ⟨mark, hmark, hhead⟩ | ⟨word, hmem, -, c, behind, rfl, hc⟩
    · obtain ⟨behind, rfl⟩ := List.head?_eq_some_iff.1 hhead
      simp only [List.mem_cons, List.not_mem_nil, or_false] at hmark
      rcases hmark with rfl | rfl <;> exact ⟨rfl, rfl⟩
    · obtain rfl := List.mem_singleton.1 hmem
      rcases hc with rfl | rfl <;> exact ⟨rfl, rfl⟩
  have hfurther : further? reader .operand true (.place k) = none := by
    have hrest : ahead .operand (Reading.place k).rest = rest := hahead .operand
    rw [further?, hrest]
    exact hoperator.2
  have hcompleted (n : Nat) :
      completed reader .operand true (atLastTypeArguments reader) n (.place k) = .place k := by
    cases n with
    | zero => rfl
    | succ n =>
      rw [completed, hfurther]
      simp
  rw [classBase?, operand?_word hword, wordOperand?_name (by rw [hahead]; exact hoperator.1)]
  simp only [Option.bind_eq_bind, Option.bind_some, hcompleted]
  simp only [Reading.place, skipTypeArguments, hargs, Option.getD_none]
  rfl

end

/-! ## Bodies -/

section
variable {k : List Char} {steps depth : Nat}

theorem braces_append (braces : Braces) (lines k : List Char) : braces.printed lines ++ k =
    braces.before.text ++ '\x7b' :: (braces.first.text ++ '\n' :: (lines ++ (braces.close.text ++
      '\x7d' :: (braces.tail.text ++ '\n' :: k)))) := by
  simp [Braces.printed]

theorem atToken_braces (words : List String) (braces : Braces) (lines k : List Char) :
    AtToken ['\x7b'] words (braces.printed lines ++ k) := by
  rw [braces_append]
  exact atToken_mark braces.before List.mem_cons_self (by decide) _

theorem endAt_spacedLines (properties : List Property) (k : List Char) : EndAt (properties.map spacedLine) k := by
  induction properties with
  | nil => trivial
  | cons property properties ih => exact ⟨fun hopen => Bool.noConfusion hopen, ih⟩

theorem linesText_spacedLines (properties : List Property) :
    linesText (properties.map spacedLine) = properties.flatMap Property.printed := by
  rw [linesText, List.flatMap_map]
  rfl

/-- The properties in braces are read as an object type. -/
theorem objectType?_spaced (braces : Braces) (properties : List Property)
    (hsteps : (braces.printed (properties.flatMap Property.printed) ++ k).length ≤ steps)
    (hdepth : (properties.flatMap Property.printed).length ≤ depth) :
    objectType? (readerWithin steps (depth + 1)) (skip (braces.printed (properties.flatMap Property.printed) ++ k)) =
      some { rest := braces.tail.text ++ '\n' :: k, members := some (properties.filterMap Property.source?) } := by
  have hcount := length_lines_le (properties.map spacedLine)
  rw [← linesText_spacedLines] at hsteps hdepth ⊢
  rw [braces_append] at hsteps ⊢
  rw [skip_gap, skip_cons (by decide)]
  simp only [List.length_append, List.length_cons] at hsteps
  have hread : objectType? (readerWithin steps (depth + 1))
      ('\x7b' :: (((gapTrivia braces.first).append .lineBreak).text ++ (linesText (properties.map spacedLine) ++
        ((gapTrivia braces.close).text ++ '\x7d' :: (braces.tail.text ++ '\n' :: k))))) =
        some { rest := braces.tail.text ++ '\n' :: k, members := some (linesProperties (properties.map spacedLine)) } :=
    objectType?_lines (gapTrivia braces.close) (endAt_spacedLines properties _)
      (by simp only [gapTrivia, List.length_append, List.length_cons]; omega) hdepth (by omega)
  have htext : ((gapTrivia braces.first).append .lineBreak).text = braces.first.text ++ ['\n'] := rfl
  have hproperties : linesProperties (properties.map spacedLine) = properties.filterMap Property.source? := by
    rw [linesProperties, List.filterMap_map]
    rfl
  rw [htext, List.append_assoc, List.singleton_append, hproperties] at hread
  exact hread

end

/-! ## Interfaces -/

section
variable {cs k : List Char} {steps depth : Nat}

theorem endsWord_clauseText (keyword : String) (clause : Option Clause) (hk : endsWord k = true) :
    endsWord (clauseText keyword clause ++ k) = true := by
  cases clause with
  | none => exact hk
  | some clause =>
    rw [clauseText_append]
    exact endsWord_parting clause.before _

/-- A clause and what follows it do not begin with type parameters. -/
theorem optionalTypeParameters?_clauseText {reader : Reader} {keyword : String} {words : List String}
    (clause : Option Clause) (hkeyword : isWord keyword.toList = true) (hk : AtToken ['\x7b'] words k) :
    optionalTypeParameters? reader (clauseText keyword clause ++ k) = some (clauseText keyword clause ++ k) :=
  (atToken_clauseText clause List.mem_cons_self hkeyword
    (hk.mono (fun _ => id) (List.subset_cons_self keyword words))).optionalTypeParameters?

/-- An interface is read behind its keyword. -/
theorem interface?_spaced (decl : Spaced.Interface) (hcs : skip cs = decl.printed ++ k)
    (hsteps : (decl.printed ++ k).length < steps) (hdepth : (decl.printed ++ k).length ≤ depth) :
    interface? (readerWithin steps (depth + 2)) cs =
      some (.ofInterface decl.source, decl.braces.tail.text ++ '\n' :: k) := by
  have hbody : AtToken ['\x7b'] [] (decl.braces.printed (decl.properties.flatMap Property.printed) ++ k) :=
    atToken_braces _ decl.braces _ k
  simp only [Spaced.Interface.printed, List.append_assoc, List.length_append] at hcs hsteps hdepth
  have hclause : clause? (readerWithin steps (depth + 2)) "extends" (interfaceBase? (readerWithin steps (depth + 2)))
      (clauseText "extends" decl.bases ++ (decl.braces.printed (decl.properties.flatMap Property.printed) ++ k)) =
        some (clauseNames decl.bases, decl.braces.printed (decl.properties.flatMap Property.printed) ++ k) := by
    refine clause?_spaced (by decide) List.not_mem_nil hbody (fun name k' hk' _ => interfaceBase?_name hk') ?_
    simp only [readerWithin, List.length_append]
    omega
  have hread : (readerWithin steps (depth + 2)).read .objectType
      (skip (decl.braces.printed (decl.properties.flatMap Property.printed) ++ k)) =
        some { rest := decl.braces.tail.text ++ '\n' :: k,
               members := some (decl.properties.filterMap Property.source?) } := by
    have hlines := congrArg List.length (braces_append decl.braces (decl.properties.flatMap Property.printed) k)
    simp only [List.length_append, List.length_cons] at hlines
    exact objectType?_spaced decl.braces decl.properties (by rw [List.length_append]; omega) (by omega)
  have hkeyword : isWord "extends".toList = true := by decide
  rw [interface?, nextWord?_of_skip hcs (endsWord_clauseText _ _ hbody.endsWord)]
  simp only [Option.bind_eq_bind, Option.bind_some, optionalTypeParameters?_clauseText decl.bases hkeyword hbody,
    hclause, hread, Name.chars, String.ofList_toList]
  rfl

end

/-! ## Classes -/

section
variable {cs k : List Char} {steps depth : Nat}

/-- The base of a class as a clause with one name. -/
def baseClause (base : Spaced.Base) : Clause where
  before := base.before
  behind := base.behind
  first := base.name
  distinct := by simp

theorem clauseText_baseClause (base : Option Spaced.Base) :
    clauseText "extends" (base.map baseClause) = (base.map Spaced.Base.printed).getD [] := by
  cases base <;> rfl

theorem clauseNames_baseClause (base : Option Spaced.Base) :
    (clauseNames (base.map baseClause)).head? = base.map fun base => base.name.text := by
  cases base <;> rfl

/-- A class is read behind its name. -/
theorem class?_spaced (decl : Spaced.Class) (hsteps : (decl.printed ++ k).length < steps)
    (hdepth : (decl.printed ++ k).length ≤ depth) :
    class? (readerWithin steps (depth + 1)) (String.ofList decl.name.chars)
        (clauseText "extends" (decl.base.map baseClause) ++ (clauseText "implements" decl.implements ++
          (decl.braces.printed (decl.properties.flatMap Property.printed) ++ k))) =
      some (decl.source, decl.braces.tail.text ++ '\n' :: k) := by
  have hbody (words : List String) :
      AtToken ['\x7b'] words (decl.braces.printed (decl.properties.flatMap Property.printed) ++ k) :=
    atToken_braces _ decl.braces _ k
  have hlines := congrArg List.length (braces_append decl.braces (decl.properties.flatMap Property.printed) k)
  have hextends : isWord "extends".toList = true := by decide
  have himplements : isWord "implements".toList = true := by decide
  have hrest : AtToken ['\x7b'] ["implements"] (clauseText "implements" decl.implements ++
      (decl.braces.printed (decl.properties.flatMap Property.printed) ++ k)) :=
    atToken_clauseText decl.implements List.mem_cons_self himplements (hbody _)
  simp only [Spaced.Class.printed, ← clauseText_baseClause, List.append_assoc, List.length_append,
    List.length_cons] at hsteps hdepth hlines
  have hbase : clause? (readerWithin steps (depth + 1)) "extends" (classBase? (readerWithin steps (depth + 1)))
      (clauseText "extends" (decl.base.map baseClause) ++ (clauseText "implements" decl.implements ++
        (decl.braces.printed (decl.properties.flatMap Property.printed) ++ k))) =
        some (clauseNames (decl.base.map baseClause), clauseText "implements" decl.implements ++
          (decl.braces.printed (decl.properties.flatMap Property.printed) ++ k)) := by
    refine clause?_spaced hextends (by decide) hrest (fun name k' hk' _ => classBase?_name hk') ?_
    simp only [readerWithin, List.length_append]
    omega
  have himplemented : clause? (readerWithin steps (depth + 1)) "implements"
      (implementedType? (readerWithin steps (depth + 1))) (clauseText "implements" decl.implements ++
        (decl.braces.printed (decl.properties.flatMap Property.printed) ++ k)) =
        some (clauseNames decl.implements, decl.braces.printed (decl.properties.flatMap Property.printed) ++ k) := by
    refine clause?_spaced himplements List.not_mem_nil (hbody []) (fun name k' hk' hlength => ?_) ?_
    · simp only [List.length_append] at hlength
      exact implementedType?_name hk' (by rw [List.length_append]; omega) (by omega)
    · simp only [readerWithin, List.length_append]
      omega
  have hbrace : nextMark? "\x7b" (decl.braces.printed (decl.properties.flatMap Property.printed) ++ k) =
      some (decl.braces.first.text ++ '\n' :: (decl.properties.flatMap Property.printed ++
        (decl.braces.close.text ++ '\x7d' :: (decl.braces.tail.text ++ '\n' :: k)))) := by
    rw [braces_append, nextMark?, skip_gap]
    rfl
  have hmembers : classMembers? (readerWithin steps (depth + 1)) steps []
      (decl.braces.first.text ++ '\n' :: (decl.properties.flatMap Property.printed ++
        (decl.braces.close.text ++ '\x7d' :: (decl.braces.tail.text ++ '\n' :: k)))) =
        some (decl.properties.filterMap Property.source?, decl.braces.tail.text ++ '\n' :: k) := by
    have hcount := length_le_length_flatMap (f := Property.printed) property_ne_nil decl.properties
    obtain ⟨count, rfl⟩ : ∃ m, steps = m + 1 := ⟨steps - 1, by omega⟩
    refine classMembers?_spaced decl.braces.close (skip_gap _ _) ?_ (by omega) (by omega)
    simp only [List.length_append, List.length_cons]
    omega
  have hreader : (readerWithin steps (depth + 1)).steps = steps := rfl
  rw [class?, optionalTypeParameters?_clauseText _ hextends hrest]
  simp only [Option.bind_eq_bind, Option.bind_some, hbase, himplemented, hbrace, hreader, hmembers,
    clauseNames_baseClause, Name.chars, String.ofList_toList]
  rfl

/-- A class is read behind its keyword. -/
theorem classDeclaration?_spaced (decl : Spaced.Class) (hcs : skip cs = decl.printed ++ k)
    (hsteps : (decl.printed ++ k).length < steps) (hdepth : (decl.printed ++ k).length ≤ depth) :
    classDeclaration? (readerWithin steps (depth + 1)) false cs =
      some (.ofClass decl.source, decl.braces.tail.text ++ '\n' :: k) := by
  have hclass := class?_spaced decl hsteps hdepth
  have hbody : AtToken ['\x7b'] [] (decl.braces.printed (decl.properties.flatMap Property.printed) ++ k) :=
    atToken_braces _ decl.braces _ k
  have hends : endsWord (clauseText "extends" (decl.base.map baseClause) ++ (clauseText "implements" decl.implements ++
      (decl.braces.printed (decl.properties.flatMap Property.printed) ++ k))) = true :=
    endsWord_clauseText _ _ (endsWord_clauseText _ _ hbody.endsWord)
  have hkeywords : ∀ word ∈ ["extends", "implements"], word ∈ keywords := by decide
  simp only [Spaced.Class.printed, ← clauseText_baseClause, List.append_assoc] at hcs
  rw [classDeclaration?, nextWord?_of_skip hcs hends, hcs]
  simp only [Option.bind_eq_bind, Option.bind_some, atAnyKeyword, anyKeyword?_name hkeywords hends, hclass,
    Option.isSome_none, Bool.and_false, Bool.false_eq_true, if_false]
  rfl

end

/-! ## Aliases -/

section
variable {cs k : List Char} {steps depth : Nat}

theorem terminated?_gap {follow : Follow} (gap : Gap) (k : List Char) :
    terminated? follow (gap.text ++ ';' :: k) = some k := by
  have hhere : ahead follow (gap.text ++ ';' :: k) = ';' :: k := by
    rw [ahead_gap, ahead_cons (by decide)]
  rw [terminated?, hhere]
  rfl

/-- Something is left of a type when white space is taken away. -/
theorem collapse_ne_nil (type : Spaced.TypeForm) : Text.collapse type.printed ≠ [] := by
  obtain ⟨c, rest, hprinted, hblank⟩ := Written.exists_head_spaced type
  intro hnil
  have hhead := Text.head?_collapse type.printed
  rw [hnil, Text.head?_trim, hprinted, Text.trimStart_of_head? (by simpa using hblank)] at hhead
  cases hhead

/-- An alias is read behind its keyword. -/
theorem alias?_spaced (decl : Spaced.Alias) (hcs : skip cs = decl.printed ++ k)
    (hsteps : (decl.printed ++ k).length < steps) (hdepth : (decl.printed ++ k).length ≤ depth) :
    alias? (readerWithin steps (depth + 1)) cs = some (.ofAlias decl.source, decl.tail.text ++ '\n' :: k) := by
  have hprinted : decl.printed ++ k = decl.name.chars ++ (decl.before.text ++ '=' :: (decl.front.text ++
      (decl.target.printed ++ (decl.back.text ++ ';' :: (decl.tail.text ++ '\n' :: k))))) := by
    simp [Spaced.Alias.printed]
  rw [hprinted] at hcs hsteps hdepth
  have hequals (cs : List Char) : atMark "<" (skip (decl.before.text ++ '=' :: cs)) = false ∧
      nextMark? "=" (decl.before.text ++ '=' :: cs) = some cs := by
    rw [nextMark?, skip_gap]
    exact ⟨rfl, rfl⟩
  have hbegins := beginsType_spaced decl.target
  have hskip : skip (decl.front.text ++ (decl.target.printed ++ (decl.back.text ++ ';' :: (decl.tail.text ++ '\n' :: k)))) =
      decl.target.printed ++ (decl.back.text ++ ';' :: (decl.tail.text ++ '\n' :: k)) := by
    rw [skip_gap, skip_of_beginsType hbegins]
  have hread : (readerWithin steps (depth + 1)).read (.type .line)
      (decl.target.printed ++ (decl.back.text ++ ';' :: (decl.tail.text ++ '\n' :: k))) =
        some (.ending (decl.back.text ++ ';' :: (decl.tail.text ++ '\n' :: k))) := by
    simp only [List.length_append, List.length_cons] at hsteps hdepth
    exact type?_spaced decl.target rfl (endsType_gap decl.back (by decide)) (skip_of_beginsType hbegins)
      (by simp only [List.length_append, List.length_cons]; omega) (by omega)
  have htarget : String.ofList (Text.collapse decl.target.printed) ≠ "" :=
    fun hempty => collapse_ne_nil decl.target (String.ofList_eq_empty_iff.1 hempty)
  rw [alias?, nextWord?_of_skip hcs (endsWord_gap decl.before rfl)]
  simp only [Option.bind_eq_bind, Option.bind_some, optionalTypeParameters?, (hequals _).1, (hequals _).2,
    Bool.false_eq_true, if_false, hskip, hread]
  simp only [Reading.ending, textBefore_append, terminated?_gap, aliasOf, Written.hasGap_spaced, Bool.false_eq_true,
    if_false, htarget, Option.bind_some, Name.chars, String.ofList_toList]
  rfl

end

end BeanGen.Script
