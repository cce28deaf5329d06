import BeanGen.Config.Value
import BeanGen.Yaml.Cursor

/-!
# Timestamps

A date is written by year, month and day. A time may follow, with a fraction of a second and a time
zone.
-/

namespace BeanGen.Yaml

open Config (Moment)

/-- A number of at least `least` and at most `most` digits, and what follows it. -/
def number? (least most : Nat) (cs : List Char) : Option (Nat × List Char) :=
  let digits := (cs.take most).takeWhile Char.isDigit
  if digits.length < least then none
  else some (digits.foldl (fun n c => 10 * n + (c.toNat - '0'.toNat)) 0, cs.drop digits.length)

/-- What follows a character. -/
def after? (c : Char) (cs : List Char) : Option (List Char) :=
  match cs with
  | d :: rest => if c = d then some rest else none
  | [] => none

/-- The number of days from the beginning of the calendar to a date. -/
def dayNumber (year month day : Nat) : Int :=
  let years : Int := if month ≤ 2 then year - 1 else year
  let month := if month ≤ 2 then month + 9 else month - 3
  365 * years + years.fdiv 4 - years.fdiv 100 + years.fdiv 400 + (153 * month + 2) / 5 + day

/-- The date at the beginning of a text, as a number of days. -/
def date? (cs : List Char) : Option (Int × List Char) := do
  let (year, cs) ← number? 4 4 cs
  let (month, cs) ← number? 1 2 (← after? '-' cs)
  let (day, cs) ← number? 1 2 (← after? '-' cs)
  return (dayNumber year month day, cs)

/-- The microseconds that digits behind the point of a second write. -/
def microseconds (digits : List Char) : Nat :=
  ((digits ++ "000000".toList).take 6).foldl (fun n c => 10 * n + (c.toNat - '0'.toNat)) 0

/-- The time of day at the beginning of a text, in microseconds. -/
def timeOfDay? (cs : List Char) : Option (Int × List Char) := do
  let (hour, cs) ← number? 1 2 cs
  let (minute, cs) ← number? 2 2 (← after? ':' cs)
  let (second, cs) ← number? 2 2 (← after? ':' cs)
  let time := 1000000 * (60 * (60 * hour + minute) + second)
  match cs with
  | '.' :: rest =>
    return ((time + microseconds (rest.takeWhile Char.isDigit) : Nat), rest.dropWhile Char.isDigit)
  | _ => return ((time : Nat), cs)

/-- The time zone that a text consists of: nothing if the text is empty, or else by how many minutes
its clocks are ahead. -/
def zone? (cs : List Char) : Option (Option Int) :=
  match cs.dropWhile isBlank with
  | [] => if cs.isEmpty then some none else none
  | ['Z'] => some (some 0)
  | sign :: rest =>
    if sign = '+' ∨ sign = '-' then do
      let (hours, rest) ← number? 1 2 rest
      let minutes ← match rest with
        | [] => some 0
        | _ => do
          let (minutes, rest) ← number? 2 2 (← after? ':' rest)
          if rest.isEmpty then some minutes else none
      let ahead : Int := (60 * hours + minutes : Nat)
      return some (if sign = '-' then -ahead else ahead)
    else none

/-- The time that follows a date. -/
def time? (cs : List Char) : Option (List Char) :=
  match cs with
  | c :: rest =>
    if c = 'T' ∨ c = 't' then some rest
    else if isBlank c then some (rest.dropWhile isBlank)
    else none
  | [] => none

/-- The point in time that a text writes. -/
def moment? (cs : List Char) : Option Moment := do
  let (days, rest) ← date? cs
  if rest.isEmpty then return ⟨.day, 86400000000 * days⟩
  else
    let (time, rest) ← timeOfDay? (← time? rest)
    let local_ := 86400000000 * days + time
    match ← zone? rest with
    | none => return ⟨.clock, local_⟩
    | some ahead => return ⟨.zoned, local_ - 60000000 * ahead⟩

/-- The text is a timestamp. A date that stands alone has two digits for its month and its day. -/
def isTimestamp (cs : List Char) : Bool :=
  match moment? cs with
  | some ⟨.day, _⟩ => cs.length == 10
  | some _ => true
  | none => false

end BeanGen.Yaml
