import BeanGen.Text.Printable

/-!
# Text shown in messages

A text that a message speaks of stands in single quotes, or in double quotes if it contains single
quotes only. Characters that leave no mark on a page are written as escapes.
-/

namespace BeanGen.Text

/-- A number in hexadecimal digits, filled up with zeros to a width. -/
def hexDigits (width n : Nat) : List Char :=
  let digits := Nat.toDigits 16 n
  List.replicate (width - digits.length) '0' ++ digits

/-- A character between quotes. -/
def shownChar (quote c : Char) : List Char :=
  if c = quote ∨ c = '\\' then ['\\', c]
  else if c = '\n' then ['\\', 'n']
  else if c = '\r' then ['\\', 'r']
  else if c = '\t' then ['\\', 't']
  else if isPrintable c then [c]
  else if c.toNat < 0x100 then '\\' :: 'x' :: hexDigits 2 c.toNat
  else if c.toNat < 0x10000 then '\\' :: 'u' :: hexDigits 4 c.toNat
  else '\\' :: 'U' :: hexDigits 8 c.toNat

/-- The quote that a text stands in. -/
def quoteFor (s : String) : Char :=
  if s.toList.contains '\'' && !s.toList.contains '"' then '"' else '\''

/-- A text in its quotes. -/
def shown (s : String) : String :=
  let quote := quoteFor s
  String.ofList (quote :: s.toList.flatMap (shownChar quote) ++ [quote])

end BeanGen.Text
