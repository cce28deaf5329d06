import BeanGen.Proofs.TypeText.Idempotence
import BeanGen.Proofs.TypeText.Parentheses

/-!
# Spellings of array types

The type of the elements of an array is written in front of brackets or as the argument of a generic type,
and either way with the keyword of read-only types in front or without it (`arraySpellings`). Text behind a
name or between brackets is whole, so no rule for other types takes a spelling away from the rules for
arrays (`readPlain_of_isWhole`). Two rules find the element, one in parentheses
(`read_brackets`) and one between commas (`read_arrayGeneric`). The mapping makes the same type of both, as
parentheses and white space around a text do not change its type (`javaTypeText_arraySpelling`).
-/

namespace BeanGen

open Text Java

namespace TypeText

/-- The ways to write an array of elements of a type. -/
def arraySpellings (element : List Char) : List (List Char) :=
  let spellings := ('(' :: element ++ ")[]".toList) ::
    ["Array", "ReadonlyArray"].map fun name => name.toList ++ '<' :: element ++ ['>']
  spellings ++ spellings.map ("readonly ".toList ++ ·)

/-- Type text that may stand as the element in each spelling of an array. -/
structure IsElement (cs : List Char) : Prop where
  balanced : IsBalanced cs
  noEquals : cs.getLast? ≠ some '='
  noComma : ∀ item ∈ items .top cs, item.atTop = true → item.text ≠ [',']
  noBar : beginsWithBar cs = false

section
variable {cs raw name piece : List Char} {c : Char} {optional : Bool}

/-! ## Normal form -/

theorem collapse_squeeze (cs : List Char) : collapse (squeeze cs) = collapse cs := by
  rw [collapse, squeeze_squeeze, collapse]

/-- White space in a text does not change its type. -/
theorem javaType_of_collapse_eq (h : collapse raw = collapse cs) (optional : Bool) :
    javaType optional raw = javaType optional cs :=
  javaType_congr (by rw [normalize, h, normalize]) optional

theorem beginsWithBar_cons (hc : isBlank c = false) (rest : List Char) :
    beginsWithBar (c :: rest) = (c == '|' || c == '&') := by
  rw [beginsWithBar, head?_trim, trimStart_of_head? (by simpa using hc)]
  rfl

/-- Brackets behind parentheses are on one line with what stands in these, and the parentheses stay. -/
theorem normalize_brackets (h : IsBalanced cs) :
    normalize ('(' :: cs ++ ")[]".toList) = '(' :: squeeze cs ++ ")[]".toList := by
  have hline : collapse ('(' :: cs ++ ")[]".toList) = '(' :: squeeze cs ++ ")[]".toList := by
    have hcut : ∀ cs, '(' :: cs ++ ")[]".toList = '(' :: (cs ++ [')', '[']) ++ [']'] := by simp
    rw [hcut, collapse_bracket rfl rfl, squeeze_append_cons rfl, hcut]
    rfl
  have hcloses : closesAtEnd ('(' :: squeeze cs ++ ")[]".toList) = false :=
    closesAtEnd_bracket_append h.squeeze (by decide) (by decide) fun _ hhead => absurd hhead (by decide)
  rw [normalize_of_not (beginsWithBar_cons rfl _), hline, unwrapParens, hcloses]
  simp

/-- Type arguments are on one line with the name in front of them. -/
theorem normalize_angles (hname : isQualifiedName name = true) (cs : List Char) :
    normalize (name ++ '<' :: cs ++ ['>']) = name ++ '<' :: squeeze cs ++ ['>'] := by
  have hblank : ∀ c ∈ name, isBlank c = false := fun c hc => isBlank_of_mem_qualifiedName hname hc
  have hmark : ∀ d ∈ ['|', '&', '('], d ∉ name := fun d hd =>
    notMem_of_isQualifiedName hname (forall_eq_false_of_any rfl d hd)
  obtain ⟨first, rest, rfl, -⟩ := exists_of_isQualifiedName hname
  have hline : collapse (first :: rest ++ '<' :: cs ++ ['>']) = first :: rest ++ '<' :: squeeze cs ++ ['>'] := by
    rw [collapse, List.append_assoc, squeeze_append_of_forall hblank, squeeze_bracket rfl rfl,
      ← List.append_assoc]
    refine trim_of_ends (by simpa using hblank first List.mem_cons_self) fun d hd => ?_
    rw [List.getLast?_concat] at hd
    exact Option.some.inj hd ▸ rfl
  have hfirst : ∀ d ∈ ['|', '&', '('], first ≠ d := by
    rintro d hd rfl
    exact hmark first hd List.mem_cons_self
  rw [normalize_of_not, hline, unwrapParens, if_neg]
  · rintro ⟨hhead, -⟩
    exact hfirst '(' (by decide) (Option.some.inj hhead)
  · rw [List.cons_append, List.cons_append, beginsWithBar_cons (hblank first List.mem_cons_self)]
    simp [hfirst]

/-! ## Reading -/

/-- A text that is whole is neither a template nor an arrow, a tuple or a union, if it begins as no template
and no tuple does. -/
theorem readPlain_of_isWhole {generic : Option (List Char × List (List Char))} (h : IsWhole cs)
    (htemplate : '\x60' ∉ cs.head?) (htuple : '[' ∉ cs.head?) :
    readPlain generic cs = (readStructure? generic cs).getD (readName generic cs) := by
  have hwhole : ∀ delimiter ∈ ['|', '&'], splitTop delimiter cs = [cs] := by
    intro delimiter hmem
    refine splitTop_of_forall fun item hitem htop htext => h item hitem htop ?_
    rw [htext]
    simp only [List.mem_cons, List.not_mem_nil, or_false] at hmem
    rcases hmem with rfl | rfl <;> decide
  have harrow : hasTopArrow cs = false := by
    rw [hasTopArrow, List.any_eq_false]
    intro item hitem htop
    rw [Bool.and_eq_true, beq_iff_eq] at htop
    exact h item hitem htop.1 (by rw [htop.2]; decide)
  have hnoTemplate : isTemplate cs = false := by
    cases cs with
    | nil => rfl
    | cons c cs =>
      have hfirst : ['\x60'].contains c = false := by simpa [eq_comm] using htemplate
      rw [isTemplate, isQuotedBy, hfirst, Bool.false_and]
  have hnoTuple : (cs.head? == some '[') = false := beq_eq_false_iff_ne.2 htuple
  rw [readPlain, hnoTemplate, harrow, hnoTuple, hwhole '|' (by decide), hwhole '&' (by decide)]
  rfl

/-- Brackets behind parentheses are read as a list of what stands in these. -/
theorem read_brackets (h : IsBalanced cs) :
    read ('(' :: cs ++ ")[]".toList) = .listOf ('(' :: cs ++ [')']) := by
  obtain ⟨hbalanced, hcloses⟩ := UnionText.balanced_and_closes h
  have hcut : '(' :: cs ++ ")[]".toList = '(' :: cs ++ [')'] ++ "[]".toList := by simp
  have hwhole : IsWhole ('(' :: cs ++ ")[]".toList) := by
    rw [hcut]
    exact (isWhole_of_closesAtEnd hcloses).append (isWhole_of_closesAtEnd (by decide)) hbalanced
      fun _ hhead => absurd hhead (by decide)
  have hgeneric : generic? ('(' :: cs ++ ")[]".toList) = none :=
    generic?_of_getLast? (by simp [List.getLast?_cons])
  have hreadonly : "readonly ".toList.isPrefixOf ('(' :: cs ++ ")[]".toList) = false := rfl
  have hstructure : readStructure? none ('(' :: cs ++ ")[]".toList) = some (.listOf ('(' :: cs ++ [')'])) := by
    have hfront : ∀ xs : List Char, (xs ++ "[]".toList).dropLast.dropLast = xs := by simp
    rw [readStructure?, if_pos (List.isSuffixOf_iff_suffix.2 ⟨_, hcut.symm⟩), hcut, hfront]
  have hhead : ('(' :: cs ++ ")[]".toList).head? = some '(' := rfl
  have hother : ∀ c, c ≠ '(' → c ∉ ('(' :: cs ++ ")[]".toList).head? :=
    fun c hne hmem => hne (Option.some.inj hmem).symm
  rw [read, hgeneric, hhead, hreadonly]
  show readPlain none ('(' :: cs ++ ")[]".toList) = _
  rw [readPlain_of_isWhole hwhole (hother '\x60' (by decide)) (hother '[' (by decide)), hstructure]
  rfl

/-- A name with type arguments is whole. -/
theorem isWhole_angles (hname : isQualifiedName name = true) (h : IsBalanced cs) (hseam : JoinsNoArrow cs ['>']) :
    IsWhole (name ++ '<' :: cs ++ ['>']) := by
  have hmarks : ∀ c ∈ name, c ∉ ['|', '&', '='] := fun c hc hmark =>
    notMem_of_isQualifiedName hname (forall_eq_false_of_any rfl c hmark) hc
  rw [List.append_assoc]
  exact (isWhole_of_forall hmarks).append
    (isWhole_of_closesAtEnd (closesAtEnd_bracket h (by decide) (by decide) hseam))
    (isBalanced_of_isQualifiedName hname) (joinsNoArrow_of_notMem fun hmem => hmarks '=' hmem (by decide))

/-- The generic names of arrays are qualified names, and none begins as the text of another rule does. -/
theorem spec_of_mem_arrayGenerics : ∀ array ∈ arrayGenerics, isQualifiedName array.toList = true ∧
    ∀ c ∈ array.toList.head?, c ∉ ['\x60', '[', '\x7b', 'r'] := by
  have hspec : arrayGenerics.all (fun array => isQualifiedName array.toList &&
      !(array.toList.head?.any (['\x60', '[', '\x7b', 'r'] : List Char).contains)) = true := by
    decide
  intro array harray
  have harray := List.all_eq_true.1 hspec array harray
  rw [Bool.and_eq_true, Bool.not_eq_true', Option.any_eq_false] at harray
  refine ⟨harray.1, fun c hc hmem => ?_⟩
  exact absurd (List.contains_iff_mem.2 hmem) (by rw [harray.2 c hc]; exact Bool.false_ne_true)

/-- The generic names of arrays have no other meaning. -/
theorem isOneOf_of_mem_arrayGenerics {array : String} (harray : array ∈ arrayGenerics) :
    isOneOf arrayGenerics array.toList = true ∧ isOneOf ["Partial"] array.toList = false ∧
      isOneOf transparentGenerics array.toList = false := by
  simp only [arrayGenerics, List.mem_cons, List.not_mem_nil, or_false] at harray
  rcases harray with rfl | rfl <;> decide

/-- A generic array that stands for none of its arguments is read as a list of the first, and as a list of
objects if it has none. -/
theorem readPlain_arrayGeneric {array : String} (harray : array ∈ arrayGenerics) (h : IsBalanced cs)
    (hseam : JoinsNoArrow cs ['>']) (hhead : ∀ c ∈ (array.toList ++ '<' :: cs ++ ['>']).head?, c ∉ ['\x60', '['])
    (args : List (List Char)) :
    readPlain (some (array.toList, args)) (array.toList ++ '<' :: cs ++ ['>']) =
      match args with
      | element :: _ => .listOf element
      | [] => .settled (.list .object) := by
  have hwhole := isWhole_angles (spec_of_mem_arrayGenerics array harray).1 h hseam
  have hsuffix : "[]".toList.isSuffixOf (array.toList ++ '<' :: cs ++ ['>']) = false := by
    rw [← Bool.not_eq_true, List.isSuffixOf_iff_suffix]
    rintro ⟨front, hfront⟩
    have hlast : (front ++ "[]".toList).getLast? = some ']' := by simp
    rw [hfront, List.getLast?_concat] at hlast
    exact absurd hlast (by decide)
  rw [readPlain_of_isWhole hwhole (fun hc => hhead _ hc (by decide)) (fun hc => hhead _ hc (by decide)),
    readStructure?.eq_def, hsuffix]
  dsimp only
  rw [(isOneOf_of_mem_arrayGenerics harray).1]
  cases args <;> rfl

/-- What is left of a single argument is the argument, unless it is blank. -/
theorem filter_map_trim_singleton (cs : List Char) :
    ([cs].map trim).filter (!·.isEmpty) = if allBlank cs then [] else [trim cs] := by
  cases hblank : allBlank cs with
  | true =>
    have hnil : trim cs = [] := by
      rw [trim, trimStart_of_allBlank hblank]
      rfl
    simp [hnil]
  | false => simp [trim_ne_nil hblank]

/-- A generic array with a single argument is read as a list of the argument, and as a list of objects if the
argument is blank. -/
theorem read_arrayGeneric {array : String} (harray : array ∈ arrayGenerics) (h : IsBalanced cs)
    (hseam : JoinsNoArrow cs ['>']) (hsingle : splitTop ',' cs = [cs]) :
    read (array.toList ++ '<' :: cs ++ ['>']) =
      if allBlank cs then .settled (.list .object) else .listOf (trim cs) := by
  obtain ⟨hname, hfirst⟩ := spec_of_mem_arrayGenerics array harray
  obtain ⟨-, hpartial, htransparent⟩ := isOneOf_of_mem_arrayGenerics harray
  have hgeneric := generic?_angles hname (notMem_of_isQualifiedName hname (by decide))
    (trim_of_forall fun c hc => isBlank_of_mem_qualifiedName hname hc) h hseam
  have hhead : ∀ c ∈ (array.toList ++ '<' :: cs ++ ['>']).head?, c ∉ ['\x60', '[', '\x7b', 'r'] := by
    obtain ⟨first, rest, hcons, -⟩ := exists_of_isQualifiedName hname
    rw [hcons]
    rintro c ⟨⟩
    exact hfirst first (by rw [hcons]; rfl)
  have hplain := readPlain_arrayGeneric harray h hseam fun c hc hmark => hhead c hc (by simp_all)
  have hnonempty : (array.toList ++ '<' :: cs ++ ['>']).isEmpty = false := by simp
  have hrecord : ((array.toList ++ '<' :: cs ++ ['>']).head? == some '\x7b') = false :=
    beq_eq_false_iff_ne.2 fun hc => hhead _ hc (by decide)
  have hreadonly : "readonly ".toList.isPrefixOf (array.toList ++ '<' :: cs ++ ['>']) = false := by
    rw [← Bool.not_eq_true, List.isPrefixOf_iff_prefix]
    rintro ⟨back, hback⟩
    exact hhead 'r' (by rw [← hback]; rfl) (by decide)
  rw [read, hnonempty, hrecord, hreadonly, hgeneric, hsingle, filter_map_trim_singleton]
  cases allBlank cs with
  | true => exact hplain []
  | false =>
    simp only [Bool.false_and, Bool.false_eq_true, if_false, hpartial, htransparent]
    exact hplain [trim cs]

/-! ## The mapped type -/

/-- A text that reads as a list is mapped to a list. -/
theorem javaType_of_listOf (h : read (normalize raw) = .listOf piece) :
    javaType optional raw = .list (javaType false piece).boxed := by
  rw [javaType_eq, h, Reading.type]

/-- A text that reads as another one is mapped like it. -/
theorem javaType_of_same {absent : Bool} (h : read (normalize raw) = .same absent piece) :
    javaType optional raw = javaType (optional || absent) piece := by
  rw [javaType_eq, h, Reading.type]

/-- Read-only types are mapped like the types behind the keyword. -/
theorem javaType_readonly (hc : isBlank c = false) (rest : List Char) :
    javaType optional ("readonly ".toList ++ c :: rest) = javaType optional (c :: rest) := by
  have hbehind : collapse (c :: rest) = c :: trimEnd (squeeze rest) := by
    rw [collapse, squeeze_cons_of_not hc, trim, trimStart_of_head? (by simpa using hc)]
    exact trimEnd_append_cons hc [] _
  have hline : collapse ("readonly ".toList ++ c :: rest) = "readonly ".toList ++ collapse (c :: rest) := by
    have hword : ∀ d ∈ "readonly".toList, isBlank d = false := forall_eq_false_of_any (by decide)
    have hspace : squeeze (' ' :: c :: rest) = ' ' :: c :: squeeze rest := by
      rw [squeeze_space (by simpa using hc), squeeze_cons_of_not hc]
    have hsqueeze : squeeze ("readonly ".toList ++ c :: rest) = "readonly ".toList ++ c :: squeeze rest := by
      have hcut := squeeze_append_of_forall (k := ' ' :: c :: rest) hword
      rwa [hspace] at hcut
    rw [hbehind, collapse, hsqueeze, trim, trimStart_of_head? (by rintro d ⟨⟩; rfl), trimEnd_append_cons hc]
  have hnormal : normalize ("readonly ".toList ++ c :: rest) = "readonly ".toList ++ collapse (c :: rest) := by
    rw [normalize_of_not (beginsWithBar_cons rfl _), hline, unwrapParens, if_neg]
    rintro ⟨⟨⟩, -⟩
  have hread : read (normalize ("readonly ".toList ++ c :: rest)) = .same false (collapse (c :: rest)) := by
    rw [hnormal]
    rfl
  rw [javaType_of_same hread, Bool.or_false]
  exact javaType_of_collapse_eq (collapse_collapse _) optional

/-- Brackets behind an element in parentheses make a list of it. -/
theorem javaType_brackets (h : IsElement cs) :
    javaType optional ('(' :: cs ++ ")[]".toList) = .list (javaType false cs).boxed := by
  have hread : read (normalize ('(' :: cs ++ ")[]".toList)) = .listOf ('(' :: squeeze cs ++ [')']) := by
    rw [normalize_brackets h.balanced, read_brackets h.balanced.squeeze]
  have hbar : beginsWithBar (squeeze cs) = false := by
    rw [beginsWithBar, ← head?_collapse, collapse_squeeze, head?_collapse]
    exact h.noBar
  rw [javaType_of_listOf hread, javaType_parens_of_not h.balanced.squeeze hbar,
    javaType_of_collapse_eq (collapse_squeeze cs)]

/-- A generic array makes a list of its argument. -/
theorem javaType_arrayGeneric {array : String} (harray : array ∈ arrayGenerics) (h : IsElement cs) :
    javaType optional (array.toList ++ '<' :: cs ++ ['>']) = .list (javaType false cs).boxed := by
  have hname := (spec_of_mem_arrayGenerics array harray).1
  have hseam : JoinsNoArrow (squeeze cs) ['>'] := by
    intro hlast
    rw [getLast?_squeeze, Option.map_eq_some_iff] at hlast
    obtain ⟨c, hc, heq⟩ := hlast
    split at heq
    · exact absurd heq (by decide)
    · exact absurd (heq ▸ hc) h.noEquals
  have hsingle : splitTop ',' (squeeze cs) = [squeeze cs] := by
    refine splitTop_of_forall fun item hitem htop htext => ?_
    rcases (readsSqueezed .top cs (by simp [Nesting.top])).of_mem_items item hitem htop with hspace | hmem
    · rw [hspace] at htext
      exact absurd htext (by decide)
    · exact h.noComma item hmem htop htext
  have hread := read_arrayGeneric harray h.balanced.squeeze hseam hsingle
  rw [← normalize_angles hname] at hread
  cases hblank : allBlank (squeeze cs) with
  | true =>
    have hnothing : collapse cs = collapse [] := by
      rw [collapse, trim, trimStart_of_allBlank hblank]
      rfl
    have hobject : read (normalize []) = .settled .object := by
      rw [normalize, unwrapParens, if_neg (by decide)]
      rfl
    rw [hblank, if_pos rfl] at hread
    rw [javaType_of_settled hread, javaType_of_collapse_eq hnothing, javaType_of_settled hobject]
    cases optional <;> rfl
  | false =>
    rw [hblank, if_neg Bool.false_ne_true] at hread
    rw [javaType_of_listOf hread]
    exact congrArg (fun type => TypeExpr.list type.boxed) (javaType_of_collapse_eq (collapse_collapse cs) false)

/-- An array is mapped to a list, however it is spelled. -/
theorem javaType_arraySpelling (h : IsElement cs) {spelling : List Char} (hspelling : spelling ∈ arraySpellings cs) :
    javaType optional spelling = .list (javaType false cs).boxed := by
  have hplain : ∀ spelling ∈ ('(' :: cs ++ ")[]".toList) ::
      arrayGenerics.map (fun name => name.toList ++ '<' :: cs ++ ['>']),
      (∃ c rest, spelling = c :: rest ∧ isBlank c = false) ∧
        javaType optional spelling = .list (javaType false cs).boxed := by
    intro spelling hspelling
    rcases List.mem_cons.1 hspelling with rfl | hgeneric
    · exact ⟨⟨'(', _, rfl, rfl⟩, javaType_brackets h⟩
    · obtain ⟨array, harray, rfl⟩ := List.mem_map.1 hgeneric
      have hname := (spec_of_mem_arrayGenerics array harray).1
      obtain ⟨c, rest, hcons, hc⟩ := exists_of_isQualifiedName hname
      refine ⟨⟨c, rest ++ '<' :: cs ++ ['>'], ?_, isBlank_of_isWordPart (isWordPart_of_isNameStart hc)⟩,
        javaType_arrayGeneric harray h⟩
      rw [hcons, List.cons_append, List.cons_append]
  rcases List.mem_append.1 hspelling with hmem | hreadonly
  · exact (hplain spelling hmem).2
  · obtain ⟨plain, hmem, rfl⟩ := List.mem_map.1 hreadonly
    obtain ⟨⟨c, rest, rfl, hc⟩, hlist⟩ := hplain plain hmem
    exact (javaType_readonly hc rest).trans hlist

end

/-- **All spellings of an array agree.** Whatever the type of the elements and the way to write the array, the
array is mapped to a list of what the element is mapped to, boxed, and so it is when it may be missing. -/
theorem javaTypeText_arraySpelling {cs spelling : List Char} (h : IsElement cs)
    (hspelling : spelling ∈ arraySpellings cs) (optional inner : Bool) :
    javaTypeText optional none (some (String.ofList spelling)) =
      "java.util.List<" ++ boxText (javaTypeText inner none (some (String.ofList cs))) ++ ">" := by
  have hboxed : (javaType inner cs).boxed = (javaType false cs).boxed := by
    cases inner with
    | true => rw [javaType_true, TypeExpr.boxed_boxed]
    | false => rfl
  rw [javaTypeText_ofList, javaTypeText_ofList, javaType_arraySpelling h hspelling, ← hboxed,
    ← (isCanonical_javaType inner cs).1.print_boxed, TypeExpr.list, TypeExpr.print]
  simp

/-- An array of functions is a list of objects, and neither the arrow nor the comma in the element matters. -/
theorem javaTypeText_arraySpelling_functions :
    IsElement "(a: A, b: B) => number".toList ∧
      "readonly Array<(a: A, b: B) => number>".toList ∈ arraySpellings "(a: A, b: B) => number".toList ∧
      javaTypeText true none (some "readonly Array<(a: A, b: B) => number>") = "java.util.List<Object>" := by
  have helement : IsElement "(a: A, b: B) => number".toList := ⟨by decide, by decide, by decide, by decide⟩
  have hspelling : "readonly Array<(a: A, b: B) => number>".toList ∈
      arraySpellings "(a: A, b: B) => number".toList := by decide
  have hobject : read (normalize "(a: A, b: B) => number".toList) = .settled .object := by
    rw [normalize, unwrapParens, if_neg (by decide)]
    rfl
  have hlist := javaTypeText_arraySpelling helement hspelling true false
  rw [javaTypeText_ofList false, javaType_of_settled hobject] at hlist
  refine ⟨helement, hspelling, hlist.trans ?_⟩
  rw [TypeExpr.boxedIf, if_neg Bool.false_ne_true, TypeExpr.print_object]
  rfl

end TypeText

end BeanGen
