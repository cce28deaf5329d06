import BeanGen.Script.Trivia
import BeanGen.Text.WordChar

/-!
# Where a phrase may end

A semicolon may be left out at the end of a line, in front of a closing brace and at the end of the
script, but not if the next line begins with something that goes on, such as an operator. What goes on
depends on what was read: an opening bracket goes on with an expression, and a brace goes on with the
head of a function. `Follow` says what was read, `ahead` gives the text from the next token on, or
nothing if the phrase ends here.
-/

namespace BeanGen.Script

/-- What may follow a phrase that could be complete. -/
structure Follow where
  /-- The phrase may end without a semicolon. It may not inside brackets. -/
  ends : Bool
  /-- Operators of expressions may follow. -/
  operators : Bool
  /-- The body of a function may follow. -/
  body : Bool
  deriving DecidableEq, Repr

namespace Follow

/-- Behind a type inside brackets. -/
def bracketed : Follow := ⟨false, false, false⟩

/-- Behind a type or a name that can end a member or a statement. -/
def line : Follow := ⟨true, false, false⟩

/-- Behind the head of a function. -/
def head : Follow := ⟨true, false, true⟩

/-- Behind an expression inside brackets. -/
def operand : Follow := ⟨false, true, false⟩

/-- Behind an expression that can end a member or a statement. -/
def expression : Follow := ⟨true, true, false⟩

end Follow

/-- A letter of any script. -/
def isLetter (c : Char) : Bool :=
  Text.isWordChar c && c != '_' && !isDigit c

/-- The text behind the word `in`, or behind its longer form `instanceof`, goes on with a letter; so the
text only begins like one of these operators. -/
def beginsOtherWord (cs : List Char) : Bool :=
  let letterBehind (rest : List Char) : Bool := rest.head?.any isLetter
  letterBehind cs && (!"stanceof".toList.isPrefixOf cs || letterBehind (cs.drop 8))

/-- A line that begins with this text does not go on with the line before. -/
def beginsAnew (follow : Follow) : List Char → Bool
  | [] => true
  | '\x7b' :: _ => !follow.body
  | '(' :: _ => !follow.operators
  | '[' :: _ => !follow.operators
  | '+' :: cs => cs.head? == some '+'
  | '-' :: cs => cs.head? == some '-'
  | '!' :: cs => cs.head? != some '='
  | 'i' :: 'n' :: cs => beginsOtherWord cs
  | c :: _ => !"\x60,.;*%><=?^|&/:".toList.contains c

/-- How many characters the comment has that is passed over in search of the next line's first token.
One that is never closed goes to the end of the script. -/
def passedLength : List Char → Nat
  | '/' :: '/' :: cs => 2 + (cs.takeWhile fun c => c != '\n' && c.toNat != 0).length
  | '/' :: '*' :: cs => ((closedBlockLength? cs).map (· + 2)).getD (cs.length + 2)
  | _ => 0

/-- The first token behind a line break begins anew. `inside` more characters belong to a comment. -/
def endsBehindBreak (follow : Follow) : Nat → List Char → Bool
  | _, [] => true
  | inside + 1, _ :: cs => endsBehindBreak follow inside cs
  | 0, c :: cs =>
    if isParting c || c == gapStart then endsBehindBreak follow 0 cs
    else match passedLength (c :: cs) with
      | inside + 1 => endsBehindBreak follow inside cs
      | 0 => c.toNat == 0 || beginsAnew follow (c :: cs)

/-- A phrase that could be complete in front of this text is, without a semicolon. In front of a brace
and a colon, only one that is an expression is. -/
def endsAt (follow : Follow) : List Char → Bool
  | [] => true
  | '\n' :: cs => endsBehindBreak follow 0 cs
  | '\x7d' :: cs => follow.operators || (cs.dropWhile isParting).head? != some ':'
  | c :: cs => c.toNat == 0 || ((isParting c || c == gapStart) && endsAt follow cs)

/-- `ahead` at a place that is not looked at yet, behind `inside` more characters of a comment. Behind
each comment the phrase may end, too. An aside is none where it could be an operator, or where the
phrase may end. -/
def aheadFrom (follow : Follow) : Nat → List Char → List Char
  | _, [] => []
  | inside + 1, _ :: cs =>
    if inside = 0 ∧ follow.ends ∧ endsAt follow cs then [] else aheadFrom follow inside cs
  | 0, c :: cs =>
    if isSpace c then aheadFrom follow 0 cs
    else if c = gapStart then
      let here := skip (c :: cs)
      if here.isEmpty then [gapEnd] else here
    else
      let aside := if follow.ends || follow.operators then 0 else asideLength (c :: cs)
      match max (commentLength (c :: cs)) aside with
      | inside + 1 => aheadFrom follow inside cs
      | 0 => c :: cs

/-- The text from the next token on, or nothing if the phrase in front of it ends here. -/
def ahead (follow : Follow) (cs : List Char) : List Char :=
  if follow.ends && endsAt follow cs then [] else aheadFrom follow 0 cs

/-- What follows the end of a phrase: its semicolon, or a place where it may be left out. -/
def terminated? (follow : Follow) (cs : List Char) : Option (List Char) :=
  match ahead follow cs with
  | [] => some cs
  | ';' :: rest => some rest
  | _ => none

end BeanGen.Script
