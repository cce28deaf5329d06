import BeanGen.Bean.Basic
import BeanGen.Java.Name
import BeanGen.Java.StringLiteral
import BeanGen.Java.Unit
import BeanGen.Text.Blank
import BeanGen.Text.Digit

/-!
# Enum constants

An enum whose declared values are all integers carries integers; one other value makes all of them
texts. A constant without a value gets the number after the last integer before it, starting from one.
-/

namespace BeanGen

open Text

/-- The integer that a text writes: an optional sign and decimal digits, with white space around. -/
def integerText? (s : String) : Option Int :=
  let cs := trim s.toList
  let (sign, digits) : Int × List Char := match cs with
    | '-' :: rest => (-1, rest)
    | '+' :: rest => (1, rest)
    | _ => (1, cs)
  if digits.isEmpty then none else (decimalValue? digits).map fun n => sign * n

/-- The integers of 32 bits. -/
def fitsInt (n : Int) : Bool :=
  -2147483648 ≤ n && n ≤ 2147483647

/-- The integer value of an enum constant, if it is one of 32 bits. -/
def enumInteger? (s : String) : Option Int :=
  (integerText? s).filter fitsInt

/-- Some declared value is no integer. -/
def isTextBacked (constants : List Constant) : Bool :=
  constants.any fun constant =>
    match constant.value with
    | some value => (enumInteger? value).isNone
    | none => false

/-- What each constant carries, as text, when the last number given was `last`. -/
def constantTexts (textBacked : Bool) : Int → List Constant → List (String × String)
  | _, [] => []
  | last, ⟨name, none⟩ :: rest =>
    (name, toString (last + 1)) :: constantTexts textBacked (last + 1) rest
  | last, ⟨name, some value⟩ :: rest =>
    match enumInteger? value with
    | some n =>
      (name, if textBacked then value else toString n) :: constantTexts textBacked n rest
    | none => (name, value) :: constantTexts textBacked last rest

/-- The constants of an enum. Those whose names cannot be declared are left out, but count in the
numbering. -/
def enumBody (constants : List Constant) : Java.EnumBody :=
  let textBacked := isTextBacked constants
  let texts := (constantTexts textBacked 0 constants).filter fun (name, _) => Java.isIdentifier name
  { textBacked := textBacked
    entries := texts.map fun (name, text) =>
      ⟨name, if textBacked then Java.stringLiteral text else text⟩ }

end BeanGen
