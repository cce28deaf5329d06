import BeanGen.Text.Blank
import BeanGen.TypeText.Nesting

/-!
# Normal form of type text

Before type text is mapped it is brought onto one line, the separators in front of a union or an
intersection written over several lines are dropped, and parentheses around the whole are removed.
No step makes the text longer, which is why the mapping can call itself on what it finds inside.
-/

namespace BeanGen.TypeText

open Text

/-- Removes the parentheses around the whole text, as many pairs as there are. -/
def unwrapParens (cs : List Char) : List Char :=
  if cs.head? = some '(' ∧ closesAtEnd cs then unwrapParens (trim (cs.drop 1).dropLast) else cs
termination_by cs.length
decreasing_by
  have h := length_trim_le (cs.drop 1).dropLast
  cases cs <;> simp_all <;> omega

/-- Removing parentheses never makes a text longer. -/
theorem length_unwrapParens_le (cs : List Char) : (unwrapParens cs).length ≤ cs.length := by
  fun_induction unwrapParens cs with
  | case1 cs h ih =>
    have h₁ := length_trim_le (cs.drop 1).dropLast
    have h₂ : (cs.drop 1).dropLast.length ≤ cs.length := by simp; omega
    omega
  | case2 => exact Nat.le_refl _

/-- A separator of alternatives, or the space behind one. -/
def isLeadingBar (c : Char) : Bool :=
  c == '|' || c == '&' || c == ' '

/-- The text on one line, without leading separators and surrounding parentheses. -/
def normalize (raw : List Char) : List Char :=
  unwrapParens ((collapse raw).dropWhile isLeadingBar)

/-- The normal form is never longer than the text. -/
theorem length_normalize_le (raw : List Char) : (normalize raw).length ≤ raw.length := by
  have h₁ := length_unwrapParens_le ((collapse raw).dropWhile isLeadingBar)
  have h₂ := (List.dropWhile_suffix (l := collapse raw) isLeadingBar).length_le
  have h₃ := length_collapse_le raw
  unfold normalize
  omega

end BeanGen.TypeText
