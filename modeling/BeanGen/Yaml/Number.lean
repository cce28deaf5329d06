import BeanGen.Config.Value
import BeanGen.Text.Blank
import BeanGen.Text.Digit
import BeanGen.Text.Slice
import BeanGen.Yaml.Scalar

/-!
# Numbers

Two things are said of numbers: which plain texts are numbers, and which number a text writes. The
second is answered for more texts than the first, because a tag can ask for a number where the text
alone would not.
-/

namespace BeanGen.Yaml

open Text

/-- A text without its sign, and whether it is negative. -/
def unsigned (cs : List Char) : Bool × List Char :=
  match cs with
  | '-' :: rest => (true, rest)
  | '+' :: rest => (false, rest)
  | _ => (false, cs)

/-- A digit or an underscore. -/
def isDigitOrGap (c : Char) : Bool :=
  c.isDigit || c == '_'

/-- One or two digits of a number below sixty. -/
def isSixtieth (cs : List Char) : Bool :=
  match cs with
  | [a] => a.isDigit
  | [a, b] => '0' ≤ a && a ≤ '5' && b.isDigit
  | _ => false

/-! ## Which texts are numbers -/

/-- The text is an integer: binary, octal, hexadecimal, decimal, or in base sixty. -/
def isInteger (cs : List Char) : Bool :=
  match (unsigned cs).2 with
  | '0' :: 'b' :: rest => !rest.isEmpty && rest.all fun c => c == '0' || c == '1' || c == '_'
  | '0' :: 'x' :: rest => !rest.isEmpty && rest.all fun c => (hexValue? c).isSome || c == '_'
  | '0' :: rest => rest.all fun c => ('0' ≤ c && c ≤ '7') || c == '_'
  | c :: rest =>
    c.isDigit &&
      match splitOn ':' (c :: rest) with
      | first :: sixtieths => first.all isDigitOrGap && sixtieths.all isSixtieth
      | [] => false
  | [] => false

/-- An exponent with its sign, or nothing. -/
def isExponent (cs : List Char) : Bool :=
  match cs with
  | [] => true
  | e :: sign :: digits =>
    (e == 'e' || e == 'E') && (sign == '+' || sign == '-') && !digits.isEmpty &&
      digits.all Char.isDigit
  | _ => false

/-- The text is a number with a point: decimal or in base sixty, infinite, or no number. -/
def isFraction (cs : List Char) : Bool :=
  let digits := (unsigned cs).2
  let whole := digits.takeWhile (· != '.')
  match digits.dropWhile (· != '.') with
  | '.' :: fraction =>
    let exponent := fraction.dropWhile isDigitOrGap
    match whole with
    | [] =>
      [".inf", ".Inf", ".INF"].any (·.toList == digits) ||
        [".nan", ".NaN", ".NAN"].any (·.toList == cs) ||
        (digits == cs && (fraction.head?.any Char.isDigit) && isExponent exponent)
    | c :: _ =>
      c.isDigit &&
        match splitOn ':' whole with
        | [piece] => piece.all isDigitOrGap && isExponent exponent
        | first :: sixtieths =>
          first.all isDigitOrGap && sixtieths.all isSixtieth && exponent.isEmpty
        | [] => false
  | _ => false

/-! ## Which number a text writes -/

/-- The value of a digit: a letter, or a decimal digit of any script. -/
def digitOf? (c : Char) : Option Nat :=
  (digitValue? c).or (hexValue? c)

/-- The number that digits of a base write. -/
def natural? (base : Nat) (cs : List Char) : Option Nat :=
  if cs.isEmpty then none
  else cs.foldlM (fun n c => do
    let digit ← digitOf? c
    if digit < base then some (base * n + digit) else none) 0

/-- The text without the letter that tells its base. -/
def dropBase (base : Nat) (cs : List Char) : List Char :=
  match cs with
  | '0' :: letter :: rest =>
    if [(2, 'b'), (8, 'o'), (16, 'x')].contains (base, letter.toLower) then rest else cs
  | _ => cs

/-- The integer that a text writes in a base, with white space around it and a sign. -/
def integerIn? (base : Nat) (cs : List Char) : Option Int :=
  let (negative, digits) := unsigned (trim cs)
  (natural? base (dropBase base digits)).map fun n => if negative then -(n : Int) else n

/-- The integer that a text writes. Underscores do not count. -/
def integer? (text : String) : Option Int :=
  let (negative, cs) := unsigned (text.toList.filter (· != '_'))
  let size := match cs with
    | ['0'] => some 0
    | '0' :: 'b' :: rest => integerIn? 2 rest
    | '0' :: 'x' :: rest => integerIn? 16 rest
    | '0' :: rest => integerIn? 8 ('0' :: rest)
    | _ => (splitOn ':' cs).foldlM (fun n piece => do return 60 * n + (← integerIn? 10 piece)) 0
  size.map fun n => if negative then -n else n

/-- The number `m` times ten to the power `e`. Beyond the bounds of numbers it is infinite or zero,
so that only small powers are computed. -/
def scaled (m : Nat) (e : Int) : Float :=
  let size := (Nat.toDigits 10 m).length + e
  if m = 0 ∨ size < -400 then 0
  else if 400 < size then 1 / 0
  else if e < 0 then Float.ofScientific m true e.natAbs
  else Float.ofScientific m false e.natAbs

/-- The number that a decimal text writes, with its point and its exponent. -/
def decimal? (cs : List Char) : Option Float := do
  let whole := cs.takeWhile isDecimal
  let rest := cs.drop whole.length
  let (fraction, rest) := match rest with
    | '.' :: rest => (rest.takeWhile isDecimal, rest.dropWhile isDecimal)
    | _ => ([], rest)
  let digits ← natural? 10 (whole ++ fraction)
  let exponent ← match rest with
    | [] => some 0
    | 'e' :: exponent => if exponent.all (!isBlank ·) then integerIn? 10 exponent else none
    | _ => none
  return scaled digits (exponent - fraction.length)

/-- The number that a text writes, with white space around it and a sign. The text is in lower case. -/
def float? (cs : List Char) : Option Float :=
  let (negative, digits) := unsigned (trim cs)
  let size :=
    if ["inf", "infinity"].any (·.toList == digits) then some (1 / 0)
    else if digits = "nan".toList then some (0 / 0)
    else decimal? digits
  size.map fun number => if negative then -number else number

/-- The number in base sixty whose digits are given from the last to the first. -/
def sexagesimal (digits : List Float) : Float :=
  (digits.foldl (fun (sum, base) digit => (sum + digit * base, base * 60)) ((0 : Float), (1 : Float))).1

/-- The number with a fraction that a text writes. Underscores do not count. -/
def fraction? (text : String) : Option Config.Value :=
  let (negative, cs) := unsigned ((text.toList.filter (· != '_')).map Char.toLower)
  if cs = ".nan".toList then some .notANumber
  else
    let size :=
      if cs = ".inf".toList then some (1 / 0)
      else if cs.contains ':' then ((splitOn ':' cs).reverse.mapM float?).map sexagesimal
      else float? cs
    size.map fun number => .fraction (if negative then -number else number)

end BeanGen.Yaml
