/-!
# Values of a configuration document

A configuration document holds text, bytes, numbers, truth values, dates, lists and mappings, in any
shape.
-/

namespace BeanGen.Config

/-- How a point in time is given. -/
inductive Moment.Kind where
  /-- A date without a time. -/
  | day
  /-- A time on the clock of some place that is not told. -/
  | clock
  /-- A time in a known time zone. -/
  | zoned
  deriving DecidableEq, Repr

/-- A point in time, in microseconds since the beginning of the calendar. In a known time zone it is
counted by universal time. -/
structure Moment where
  kind : Moment.Kind
  microseconds : Int
  deriving DecidableEq, Repr

/-- A value of a configuration document. -/
inductive Value where
  | null
  | bool (value : Bool)
  | int (value : Int)
  /-- A number with a fraction, or an infinite one. -/
  | fraction (value : Float)
  /-- The number that stands for none. -/
  | notANumber
  | moment (value : Moment)
  | text (value : String)
  | bytes (content : List UInt8)
  | list (items : List Value)
  | mapping (entries : List (Value × Value))
  /-- Two values as one. -/
  | pair
  /-- A list or a mapping that this value is a part of. -/
  | enclosing
  deriving BEq, Repr, Inhabited

/-- The integer that a floating-point number is equal to, if there is one. -/
def wholeOf? (number : Float) : Option Int :=
  let bits := number.toBits.toNat
  let exponent := (bits >>> 52) % 0x800
  let mantissa := bits % 0x10000000000000
  if exponent = 0x7ff then none
  else
    let (mantissa, exponent) :=
      if exponent = 0 then (mantissa, 1) else (mantissa + 0x10000000000000, exponent)
    let sign : Int := if bits >>> 63 = 0 then 1 else -1
    if 1075 ≤ exponent then some (sign * (mantissa <<< (exponent - 1075) : Nat))
    else
      let unit := 1 <<< (1075 - exponent)
      if mantissa % unit = 0 then some (sign * (mantissa / unit : Nat)) else none

/-- The value as a key. As keys, numbers are the same if they are equal, and the truth values are the
numbers one and zero. -/
def Value.keyForm : Value → Value
  | bool b => int (if b then 1 else 0)
  | fraction number =>
    match wholeOf? number with
    | some n => int n
    | none => fraction number
  | value => value

/-- Entries with the value of one key replaced in place, or with a new entry at the end. -/
def insertValue (key value : Value) : List (Value × Value) → List (Value × Value)
  | [] => [(key, value)]
  | entry :: rest =>
    if entry.1.keyForm == key.keyForm then (entry.1, value) :: rest
    else entry :: insertValue key value rest

/-- The mapping that pairs build up from left to right: a key that is repeated keeps its first place
and gets its last value. -/
def Value.ofPairs (pairs : List (Value × Value)) : Value :=
  .mapping (pairs.foldl (fun entries (key, value) => insertValue key value entries) [])

end BeanGen.Config
