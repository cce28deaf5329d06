import BeanGen.Proofs.Java.Name
import BeanGen.Proofs.TypeText.Arguments
import BeanGen.TypeText.Outline

/-!
# Type expressions put together from parts

A type expression is a name, a name with arguments between angle brackets, or an element with brackets behind
it. When the names have no marks in them (`IsUnmarked`), the expression is a part that may stand in a larger one
(`IsPart`): its brackets pair up, the commas in it stand in its brackets, and there is no white space around it.
So a reader that looks for the first angle bracket and for brackets at the end finds the parts again
(`outline_angles`, `outline_brackets`).
-/

namespace BeanGen.TypeText

open Text

/-- A character that opens or closes something or separates arguments. -/
def isMark (c : Char) : Bool :=
  isStructural c || c == ','

/-- The text opens and closes nothing and has no comma. -/
def IsUnmarked (cs : List Char) : Prop :=
  ∀ c ∈ cs, isMark c = false

/-- Text that may stand in an expression as an argument or as an element. -/
structure IsPart (cs : List Char) : Prop extends IsArgument cs where
  noEquals : '=' ∉ cs

section
variable {cs name inner : List Char} {args : List (List Char)}

/-- A kind of characters that has no mark in it is unmarked. -/
theorem isMark_eq_false {p : Char → Bool} {c : Char} (h : p c = true)
    (hmarks : (quotes ++ openers ++ closers ++ ['=', ',']).any p = false) : isMark c = false := by
  have hcut : quotes ++ openers ++ closers ++ ['=', ','] = quotes ++ openers ++ closers ++ ['='] ++ [','] := by simp
  rw [hcut, List.any_append, Bool.or_eq_false_iff] at hmarks
  have hcomma : c ≠ ',' := by
    rintro rfl
    simp [h] at hmarks
  rw [isMark, isStructural_eq_false h hmarks.1, Bool.false_or, beq_eq_false_iff_ne]
  exact hcomma

/-- Marks do not occur in an unmarked text. -/
theorem IsUnmarked.notMem (h : IsUnmarked cs) {c : Char} (hc : isMark c = true) : c ∉ cs := by
  intro hmem
  rw [h c hmem] at hc
  cases hc

theorem IsUnmarked.isBalanced (h : IsUnmarked cs) : IsBalanced cs :=
  isBalanced_of_forall fun c hc => (Bool.or_eq_false_iff.1 (h c hc)).1

/-! ## Parts -/

/-- An unmarked name is a part. -/
theorem IsUnmarked.isPart (h : IsUnmarked name) (htrim : trim name = name) : IsPart name where
  balanced := h.isBalanced
  whole := splitTop_of_notMem (h.notMem rfl)
  trimmed := htrim
  noEquals := h.notMem rfl

/-- The commas in a name with balanced text between angle brackets stand in the brackets. -/
theorem splitTop_angles (hname : IsUnmarked name) (hinner : IsBalanced inner) (heq : '=' ∉ inner) :
    splitTop ',' (name ++ '<' :: inner ++ ['>']) = [name ++ '<' :: inner ++ ['>']] := by
  have hcloses : closesAtEnd ('<' :: inner ++ ['>']) = true :=
    closesAtEnd_bracket hinner (by decide) (by decide) (joinsNoArrow_of_notMem heq)
  rw [List.append_assoc]
  refine splitTop_of_forall fun item hitem htop htext => ?_
  rw [Nesting.top, (hname.isBalanced.items_append (joinsNoArrow_of_notMem (hname.notMem rfl)) 0).1,
    List.mem_append] at hitem
  rcases hitem with hitem | hitem
  · have hcomma : ',' ∈ name := mem_of_mem_items hitem (by rw [htext]; exact List.mem_cons_self)
    exact hname.notMem rfl hcomma
  · obtain ⟨c, hc, hbracket⟩ := exists_of_atTop_of_closesAtEnd hcloses hitem htop
    obtain rfl : ',' = c := by simpa [htext] using hc
    revert hbracket
    decide

/-- There is no equals sign in arguments that are parts, nor between them. -/
theorem notMem_intercalate (hargs : ∀ arg ∈ args, IsPart arg) : '=' ∉ ", ".toList.intercalate args := by
  intro hmem
  rcases of_mem_intercalate hmem with hmark | ⟨arg, harg, hmem⟩
  · exact absurd hmark (by decide)
  · exact (hargs arg harg).noEquals hmem

/-- A name with parts as arguments is a part. -/
theorem isPart_angles (hname : IsUnmarked name) (htrim : trim name = name) (hargs : ∀ arg ∈ args, IsPart arg) :
    IsPart (name ++ '<' :: ", ".toList.intercalate args ++ ['>']) := by
  have heq := notMem_intercalate hargs
  have hinner : IsBalanced (", ".toList.intercalate args) :=
    isBalanced_intercalate (fun arg harg => (hargs arg harg).balanced) fun arg harg => (hargs arg harg).noEquals
  refine ⟨⟨?_, splitTop_angles hname hinner heq, trim_of_ends (fun c hc => ?_) fun c hc => ?_⟩, ?_⟩
  · rw [List.append_assoc]
    exact hname.isBalanced.append (hinner.bracket (by decide) (by decide) (joinsNoArrow_of_notMem heq))
      (joinsNoArrow_of_notMem (hname.notMem rfl))
  · cases name with
    | nil =>
      obtain rfl : '<' = c := Option.some.inj hc
      rfl
    | cons d name =>
      obtain rfl : d = c := Option.some.inj hc
      exact isBlank_of_head?_trim (d :: name) (by rw [htrim]; rfl)
  · rw [List.getLast?_concat] at hc
    exact Option.some.inj hc ▸ rfl
  · rw [List.mem_append, List.mem_append, List.mem_cons, List.mem_singleton]
    rintro ((hmem | hmem | hmem) | hmem)
    · exact hname.notMem rfl hmem
    · exact absurd hmem (by decide)
    · exact heq hmem
    · exact absurd hmem (by decide)

/-- An item that does not separate belongs to the only piece. -/
theorem splitItems_concat {delimiter c : Char} {is : List Item} (hc : c ≠ delimiter)
    (h : splitItems [delimiter] is = [cs]) : splitItems [delimiter] (is ++ [⟨[c], true⟩]) = [cs ++ [c]] := by
  obtain ⟨front, last, hpieces, hwhole⟩ := exists_splitItems_concat hc true is
  rw [h] at hpieces
  cases front with
  | nil =>
    obtain rfl := List.singleton_inj.1 hpieces
    exact hwhole
  | cons first front => simp at hpieces

/-- Brackets behind a part make a part. -/
theorem isPart_brackets (h : IsPart cs) : IsPart (cs ++ ['[', ']']) := by
  have hbrackets : IsBalanced ['[', ']'] := by decide
  have hseam : JoinsNoArrow cs ['[', ']'] := joinsNoArrow_of_notMem h.noEquals
  refine ⟨⟨h.balanced.append hbrackets hseam, ?_, trim_of_ends (fun c hc => ?_) fun c hc => ?_⟩, ?_⟩
  · have hitems : items .top (cs ++ ['[', ']']) = items .top cs ++ [⟨['['], true⟩] ++ [⟨[']'], true⟩] := by
      rw [Nesting.top, (h.balanced.items_append hseam 0).1, List.append_assoc]
      rfl
    rw [splitTop, splitTopAt, hitems,
      splitItems_concat (by decide) (splitItems_concat (by decide) h.whole), List.append_assoc]
    rfl
  · cases cs with
    | nil =>
      obtain rfl : '[' = c := Option.some.inj hc
      rfl
    | cons d cs =>
      obtain rfl : d = c := Option.some.inj hc
      exact isBlank_of_head?_trim (d :: cs) (by rw [h.trimmed]; rfl)
  · obtain rfl : ']' = c := by simpa using hc
    rfl
  · simp [h.noEquals]

/-! ## Outlines -/

/-- An unmarked name has no parts. -/
theorem outline_of_isUnmarked (h : IsUnmarked name) : outline name = .simple name :=
  Java.outline_of_notMem (h.notMem rfl) (h.notMem rfl)

/-- The arguments of an expression are found again. -/
theorem outline_angles (hname : IsUnmarked name) (htrim : trim name = name) (hne : args ≠ [])
    (hargs : ∀ arg ∈ args, IsPart arg) :
    outline (name ++ '<' :: ", ".toList.intercalate args ++ ['>']) = .applied name args := by
  obtain ⟨hbefore, hbehind⟩ := before_and_dropWhile_angles (hname.notMem rfl) (", ".toList.intercalate args)
  have hangle : (name ++ '<' :: ", ".toList.intercalate args ++ ['>']).contains '<' = true := by simp
  have hlast : ((name ++ '<' :: ", ".toList.intercalate args ++ ['>']).getLast? == some '>') = true := by
    rw [List.getLast?_concat]
    rfl
  have hbetween : (('<' :: ", ".toList.intercalate args ++ ['>']).drop 1).dropLast = ", ".toList.intercalate args := by
    simp
  rw [outline, hangle, hlast, hbefore, htrim, hbehind, hbetween,
    map_trim_splitTop_intercalate hne fun arg harg => (hargs arg harg).toIsArgument]
  rfl

/-- The element in front of brackets is found again. -/
theorem outline_brackets (h : trim cs = cs) : outline (cs ++ ['[', ']']) = .array cs := by
  have hlast : ((cs ++ ['[', ']']).getLast? == some '>') = false := by simp
  have hsuffix : "[]".toList.isSuffixOf (cs ++ ['[', ']']) = true := List.isSuffixOf_iff_suffix.2 ⟨cs, rfl⟩
  have hfront : (cs ++ ['[', ']']).dropLast.dropLast = cs := by simp
  rw [outline, hlast, Bool.and_false, hsuffix, hfront, h]
  rfl

end

end BeanGen.TypeText
