import BeanGen.Script.Statement

/-!
# The grammar

`reader` puts the readers of all kinds of phrases together. How deep phrases can be nested is bounded by
the length of the script: every level takes at least one of its characters, in a few steps.
-/

namespace BeanGen.Script

/-- Reads a phrase by means of a reader for the phrases inside it. -/
def Goal.read? (reader : Reader) : Goal → List Char → Option Reading
  | type follow, cs => type? reader follow cs
  | primaryType follow, cs => primaryType? reader follow cs
  | objectType, cs => objectType? reader cs
  | expression follow typedArrows, cs =>
    (expression? reader follow typedArrows cs).map .ending
  | operand follow typedArrows, cs =>
    operand? reader follow typedArrows cs
  | pattern, cs => (pattern? reader cs).map .ending
  | block, cs => (statements? reader cs).map .ending
  | classValue, cs => (classValue? reader cs).map .ending
  | statement, cs => (statement? reader cs).map fun (_, rest) => .ending rest

/-- Reads a phrase in which phrases are nested less deep than `depth`. -/
def readWithin (steps : Nat) : Nat → Goal → List Char → Option Reading
  | 0, _, _ => none
  | depth + 1, goal, cs => goal.read? ⟨steps, readWithin steps depth⟩ cs

/-- The reader for a script of this length. -/
def readerFor (length : Nat) : Reader where
  steps := length + 1
  read := readWithin (length + 1) (8 * (length + 1))

end BeanGen.Script
