import BeanGen.Script.Character

/-!
# Between tokens

White space and comments may stand between any two tokens. A comment is a line comment, a block
comment, or, where a phrase can begin, an aside: `<!--` or `-->` and the rest of the line. A block
comment that is never closed is none.
-/

namespace BeanGen.Script

/-- How many characters a text has up to the mark that closes a block comment, and with it. -/
def closedBlockLength? : List Char → Option Nat
  | '*' :: '/' :: _ => some 2
  | _ :: cs => (closedBlockLength? cs).map (· + 1)
  | [] => none

/-- How many characters the comment has that the text begins with; zero if it begins with none. -/
def commentLength : List Char → Nat
  | '/' :: '/' :: cs => 2 + (cs.takeWhile (!breaksLine ·)).length
  | '/' :: '*' :: cs => ((closedBlockLength? cs).map (· + 2)).getD 0
  | _ => 0

/-- A character that ends an aside. -/
def endsAside (c : Char) : Bool :=
  c == '\n' || c.toNat == 0x2028 || c.toNat == 0x2029 || c.toNat == 0

/-- How many characters the aside has that the text begins with; zero if it begins with none. -/
def asideLength : List Char → Nat
  | '<' :: '!' :: '-' :: '-' :: cs => 4 + (cs.takeWhile (!endsAside ·)).length
  | '-' :: '-' :: '>' :: cs => 3 + (cs.takeWhile (!endsAside ·)).length
  | _ => 0

/-- How many characters the gap has that the text begins with; zero if it begins with none. -/
def gapLength : List Char → Nat
  | [] => 0
  | c :: cs => if c = gapStart then 2 + (cs.takeWhile (· != gapEnd)).length else 0

/-- The text has a gap in it or lacks a name. -/
def hasGap (cs : List Char) : Bool :=
  cs.any fun c => c == gapStart || c == missingName

/-- The text behind white space, comments and asides, where `inside` more characters belong to a
comment that was begun. -/
def skipFrom : Nat → List Char → List Char
  | _, [] => []
  | inside + 1, _ :: cs => skipFrom inside cs
  | 0, c :: cs =>
    if isSpace c then skipFrom 0 cs
    else match max (max (commentLength (c :: cs)) (asideLength (c :: cs))) (gapLength (c :: cs)) with
      | inside + 1 => skipFrom inside cs
      | 0 => c :: cs

/-- The text from the next token on. -/
def skip (cs : List Char) : List Char :=
  skipFrom 0 cs

/-- The asides in front of the next token, where `inside` more characters belong to a comment. -/
def asidesFrom : Nat → List Char → List (List Char)
  | _, [] => []
  | inside + 1, _ :: cs => asidesFrom inside cs
  | 0, c :: cs =>
    if isSpace c then asidesFrom 0 cs
    else match max (commentLength (c :: cs)) (gapLength (c :: cs)), asideLength (c :: cs) with
      | inside + 1, _ => asidesFrom inside cs
      | 0, inside + 1 => (c :: cs.take inside) :: asidesFrom inside cs
      | 0, 0 => []

/-- The first comment or aside in front of the next token. -/
def firstComment? (cs : List Char) : Option (List Char) :=
  let cs := cs.dropWhile isSpace
  match max (commentLength cs) (asideLength cs) with
  | 0 => none
  | length => some (cs.take length)

end BeanGen.Script
