/-!
# White space

`isBlank` is the white space of every script. Text read from declarations and from configuration is
trimmed, split and collapsed by it, so that a no-break space or an ideographic space counts like a
plain one.
-/

namespace BeanGen.Text

/-- White space of any script: the ASCII separators and controls, NEL, the no-break space and the
space characters of the general punctuation block. -/
def isBlank (c : Char) : Bool :=
  let n := c.toNat
  (0x09 ≤ n && n ≤ 0x0d) || (0x1c ≤ n && n ≤ 0x20) || n == 0x85 || n == 0xa0 || n == 0x1680 ||
    (0x2000 ≤ n && n ≤ 0x200a) || n == 0x2028 || n == 0x2029 || n == 0x202f || n == 0x205f ||
    n == 0x3000

/-- The text without its leading white space. -/
def trimStart (cs : List Char) : List Char :=
  cs.dropWhile isBlank

/-- The text without its trailing white space. -/
def trimEnd (cs : List Char) : List Char :=
  (cs.reverse.dropWhile isBlank).reverse

/-- The text without the white space at its two ends. -/
def trim (cs : List Char) : List Char :=
  trimEnd (trimStart cs)

/-- Trimming never makes a text longer. -/
theorem length_trim_le (cs : List Char) : (trim cs).length ≤ cs.length := by
  have h₁ : (trimStart cs).length ≤ cs.length :=
    (List.dropWhile_suffix (l := cs) isBlank).length_le
  have h₂ : (trim cs).length ≤ (trimStart cs).length := by
    simpa [trim, trimEnd] using
      (List.dropWhile_suffix (l := (trimStart cs).reverse) isBlank).length_le
  omega

/-- Every run of white space becomes one space. -/
def squeeze : List Char → List Char
  | [] => []
  | [c] => [if isBlank c then ' ' else c]
  | c :: d :: cs =>
    if isBlank c && isBlank d then squeeze (d :: cs)
    else (if isBlank c then ' ' else c) :: squeeze (d :: cs)

/-- Squeezing never makes a text longer. -/
theorem length_squeeze_le (cs : List Char) : (squeeze cs).length ≤ cs.length := by
  fun_induction squeeze cs with
  | case1 => exact Nat.le_refl _
  | case2 c => exact Nat.le_refl _
  | case3 c d cs hblank ih => exact Nat.le_succ_of_le ih
  | case4 c d cs hblank ih => exact Nat.succ_le_succ ih

/-- The words of the text with one space between them. -/
def collapse (cs : List Char) : List Char :=
  trim (squeeze cs)

/-- Collapsing never makes a text longer. -/
theorem length_collapse_le (cs : List Char) : (collapse cs).length ≤ cs.length :=
  Nat.le_trans (length_trim_le _) (length_squeeze_le cs)

/-- The text without any white space. -/
def dropBlanks (cs : List Char) : List Char :=
  cs.filter (!isBlank ·)

/-- Nothing but white space. -/
def allBlank (cs : List Char) : Bool :=
  cs.all isBlank

/-- `trim` on strings. -/
def trimmed (s : String) : String :=
  String.ofList (trim s.toList)

/-- A string that is empty or holds nothing but white space. -/
def isBlankText (s : String) : Bool :=
  allBlank s.toList

/-- The trimmed text, unless nothing is left of it. -/
def nonBlank? (s : String) : Option String :=
  if isBlankText s then none else some (trimmed s)

end BeanGen.Text
