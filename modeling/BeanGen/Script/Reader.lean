import BeanGen.Script.Follow
import BeanGen.Script.Lexeme
import BeanGen.Source.Basic

/-!
# Readers of phrases

Types, expressions, members and statements are nested in each other. A `Goal` names a kind of phrase,
and a `Reader` reads any of them; the modules of the grammar say how a phrase is read by means of a
reader for the phrases inside it. Reading gives the text behind the phrase, directly behind its last
token; comments that follow are not passed over, because they may belong to what is around it.
-/

namespace BeanGen.Script

open Source (Property)

/-- A kind of phrase. Where the phrase may end without brackets, it is said what may follow. -/
inductive Goal where
  /-- A type. -/
  | type (follow : Follow)
  /-- A type that can be indexed: no function type, no `readonly`. -/
  | primaryType (follow : Follow)
  /-- An object type with its members. -/
  | objectType
  /-- An expression. If `typedArrows` is false, the arrow functions in it have no return type. -/
  | expression (follow : Follow) (typedArrows : Bool)
  /-- An operand with its prefixed operators. -/
  | operand (follow : Follow) (typedArrows : Bool)
  /-- What a value can be taken apart with: a name, or names in brackets. -/
  | pattern
  /-- Statements in braces. -/
  | block
  /-- A class behind its keyword; it may have no name. -/
  | classValue
  | statement
  deriving DecidableEq, Repr

/-- A phrase that was read. -/
structure Reading where
  /-- The text behind it. -/
  rest : List Char
  /-- The members, if it is an object type and nothing else. -/
  members : Option (List Property) := none
  /-- It is an expression, and a value can be assigned to its last operand. -/
  assignable : Bool := false

/-- A phrase of which only the end is kept. -/
def Reading.ending (rest : List Char) : Reading := { rest }

/-- What reads phrases. -/
structure Reader where
  /-- More than how often anything is repeated in the script. -/
  steps : Nat
  read : Goal → List Char → Option Reading

namespace Reader

/-- What follows the phrase. -/
def rest? (reader : Reader) (goal : Goal) (cs : List Char) : Option (List Char) :=
  (reader.read goal cs).map (·.rest)

/-- What follows a type. -/
def type? (reader : Reader) (follow : Follow) (cs : List Char) : Option (List Char) :=
  reader.rest? (.type follow) cs

/-- What follows an expression. -/
def expression? (reader : Reader) (follow : Follow) (cs : List Char) : Option (List Char) :=
  reader.rest? (.expression follow true) cs

/-- What follows one expression or more, with commas between them. -/
def expressions? (reader : Reader) (follow : Follow) (cs : List Char) : Option (List Char) :=
  further reader.steps cs
where
  /-- What follows at most so many expressions. -/
  further : Nat → List Char → Option (List Char)
    | 0, _ => none
    | steps + 1, cs => do
      let rest ← reader.expression? follow cs
      match ahead follow rest with
      | ',' :: behind => further steps behind
      | _ => some rest

end Reader

/-- What follows as many phrases as there are. -/
def repeated (step : List Char → Option (List Char)) : Nat → List Char → List Char
  | 0, cs => cs
  | steps + 1, cs =>
    match step cs with
    | some rest => repeated step steps rest
    | none => cs

/-- What follows the closing mark behind a list, which may be empty. A comma stands between two items
and may stand behind the last. If there may be gaps, items can be missing between commas. -/
def listed? (item : List Char → Option (List Char)) (gaps : Bool) (close : String) :
    Nat → List Char → Option (List Char)
  | 0, _ => none
  | steps + 1, cs =>
    match nextMark? close cs with
    | some rest => some rest
    | none =>
      match if gaps then nextMark? "," cs else none with
      | some rest => listed? item gaps close steps rest
      | none => do
        let rest ← item cs
        match nextMark? "," rest with
        | some rest => listed? item gaps close steps rest
        | none => nextMark? close rest

/-- What follows the closing mark behind a list in which a comma may stand alone. -/
def listedOrComma? (item : List Char → Option (List Char)) (close : String) (steps : Nat)
    (cs : List Char) : Option (List Char) :=
  ((nextMark? "," cs).bind (nextMark? close)).or (listed? item false close steps cs)

/-- What follows the closing mark behind a list that is not empty. -/
def listedSome? (item : List Char → Option (List Char)) (close : String) (steps : Nat)
    (cs : List Char) : Option (List Char) := do
  let rest ← item cs
  match nextMark? "," rest with
  | some rest => listed? item false close steps rest
  | none => nextMark? close rest

/-- The part of `cs` in front of `rest`, which is an end of it. -/
def textBefore (rest cs : List Char) : List Char :=
  cs.take (cs.length - rest.length)

/-- What was read of the text, unless a gap is in it. -/
def whole? {α : Type} (item : Option α) (rest cs : List Char) : Option α :=
  if hasGap (textBefore rest (skip cs)) then none else item

end BeanGen.Script
