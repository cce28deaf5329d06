/-!
# Base 64

Bytes are written as letters, four letters for three bytes. Other characters between the letters are
passed over. Equal signs fill up the last four letters and end the text; a text must not end without
them in the middle of four letters.
-/

namespace BeanGen.Text.Base64

/-- The six bits that a letter stands for. -/
def bits? (c : Char) : Option Nat :=
  if 'A' ≤ c ∧ c ≤ 'Z' then some (c.toNat - 0x41)
  else if 'a' ≤ c ∧ c ≤ 'z' then some (c.toNat - 0x61 + 26)
  else if '0' ≤ c ∧ c ≤ '9' then some (c.toNat - 0x30 + 52)
  else if c = '+' then some 62
  else if c = '/' then some 63
  else none

/-- Reads letters. `count` of the four letters at hand are read, with `left` as the bits that are not
yet in a byte; `fill` equal signs stand behind them. -/
def decodeFrom? (count left fill : Nat) : List Char → Option (List UInt8)
  | [] => if count = 0 then some [] else none
  | c :: cs =>
    if c = '=' then
      if 2 ≤ count ∧ 4 ≤ count + fill + 1 then some []
      else decodeFrom? count left (if 2 ≤ count then fill + 1 else fill) cs
    else
      match bits? c with
      | none => decodeFrom? count left fill cs
      | some bits =>
        match count with
        | 0 => decodeFrom? 1 bits 0 cs
        | 1 => (decodeFrom? 2 (bits % 16) 0 cs).map ((left * 4 + bits / 16).toUInt8 :: ·)
        | 2 => (decodeFrom? 3 (bits % 4) 0 cs).map ((left * 16 + bits / 4).toUInt8 :: ·)
        | _ => (decodeFrom? 0 0 0 cs).map ((left * 64 + bits).toUInt8 :: ·)

/-- The bytes that a text writes; nothing if it ends in the middle. -/
def decode? (cs : List Char) : Option (List UInt8) :=
  decodeFrom? 0 0 0 cs

end BeanGen.Text.Base64
