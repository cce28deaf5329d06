import BeanGen.Script.Trivia

/-!
# Lexemes

What a single token is, read at the place where it begins: names, numbers, strings, regular expressions
and marks. Which of them a text is depends on what the grammar asks for there: a slash divides or begins
a regular expression, and two bars are one operator in an expression but two in a type. So each kind has
a reader of its own, which gives the text behind the token.
-/

namespace BeanGen.Script

/-! ## Names -/

/-- How many characters an escaped character of a name has, which is written as its number. -/
def escapedLength : List Char → Nat
  | '\\' :: 'u' :: '\x7b' :: cs =>
    let digits := cs.takeWhile isHexDigit
    if !digits.isEmpty && (cs.drop digits.length).head? == some '\x7d' then 4 + digits.length else 0
  | '\\' :: 'u' :: cs => if ((cs.take 4).takeWhile isHexDigit).length = 4 then 6 else 0
  | _ => 0

/-- How many characters of a text go on with a name, where `inside` more belong to an escaped one. -/
def namePartsLength : Nat → List Char → Nat
  | _, [] => 0
  | inside + 1, _ :: cs => 1 + namePartsLength inside cs
  | 0, c :: cs =>
    if isNamePart c then 1 + namePartsLength 0 cs
    else match escapedLength (c :: cs) with
      | inside + 1 => 1 + namePartsLength inside cs
      | 0 => 0

/-- How many characters the name has that the text begins with; zero if it begins with none. -/
def nameLength (cs : List Char) : Nat :=
  if cs.head?.any isDigit then 0 else namePartsLength 0 cs

/-- A text that begins with `length` characters of a token, cut behind them, unless there are none. -/
def cut? (length : Nat) (cs : List Char) : Option (List Char × List Char) :=
  if length = 0 then none else some (cs.splitAt length)

/-- A name or a keyword, and what follows it. -/
def word? (cs : List Char) : Option (List Char × List Char) :=
  cut? (nameLength cs) cs

/-- A name behind `#`, and what follows it. -/
def privateName? (cs : List Char) : Option (List Char × List Char) :=
  match cs with
  | '#' :: rest => cut? (if nameLength rest = 0 then 0 else nameLength rest + 1) cs
  | _ => none

/-- What follows the keyword, if the text begins with it. -/
def keyword? (keyword : String) (cs : List Char) : Option (List Char) :=
  match word? cs with
  | some (word, rest) => if word = keyword.toList then some rest else none
  | none => none

/-- What follows the first of the keywords that the text begins with. -/
def anyKeyword? (keywords : List String) (cs : List Char) : Option (List Char) :=
  keywords.findSome? (keyword? · cs)

/-- The text begins with the keyword. -/
def atKeyword (keyword : String) (cs : List Char) : Bool :=
  (keyword? keyword cs).isSome

/-- The text begins with one of the keywords. -/
def atAnyKeyword (keywords : List String) (cs : List Char) : Bool :=
  (anyKeyword? keywords cs).isSome

/-! ## Marks -/

/-- What follows the mark, if the text begins with it. -/
def mark? (mark : String) (cs : List Char) : Option (List Char) :=
  if mark.toList.isPrefixOf cs then some (cs.drop mark.length) else none

/-- The text begins with the mark. -/
def atMark (mark : String) (cs : List Char) : Bool :=
  mark.toList.isPrefixOf cs

/-- The text begins with one of the marks. -/
def atAnyMark (marks : List String) (cs : List Char) : Bool :=
  marks.any (atMark · cs)

/-- What follows the mark, if it is the next token. -/
def nextMark? (mark : String) (cs : List Char) : Option (List Char) :=
  mark? mark (skip cs)

/-- What follows the keyword, if it is the next token. -/
def nextKeyword? (keyword : String) (cs : List Char) : Option (List Char) :=
  keyword? keyword (skip cs)

/-- The next token if it is a name, and what follows it. -/
def nextWord? (cs : List Char) : Option (List Char × List Char) :=
  word? (skip cs)

/-- What follows the mark, or the whole text if the mark is not the next token. -/
def skipMark (mark : String) (cs : List Char) : List Char :=
  (nextMark? mark cs).getD cs

/-- What follows the keyword, or the whole text if the keyword is not the next token. -/
def skipKeyword (keyword : String) (cs : List Char) : List Char :=
  (nextKeyword? keyword cs).getD cs

/-! ## Numbers -/

/-- How many characters go on with digits. An underscore may stand between two digits. -/
def furtherDigitsLength (isDigit : Char → Bool) : List Char → Nat
  | '_' :: c :: cs => if isDigit c then 2 + furtherDigitsLength isDigit cs else 0
  | c :: cs => if isDigit c then 1 + furtherDigitsLength isDigit cs else 0
  | [] => 0

/-- How many characters the digits have that the text begins with. -/
def digitsLength (isDigit : Char → Bool) (cs : List Char) : Nat :=
  if cs.head?.any isDigit then furtherDigitsLength isDigit cs else 0

/-- How many characters the exponent has that the text begins with; zero if it begins with none. -/
def exponentLength (cs : List Char) : Nat :=
  match cs with
  | e :: rest =>
    if e = 'e' ∨ e = 'E' then
      let sign := (rest.takeWhile fun c => c == '+' || c == '-').take 1
      let digits := digitsLength isDigit (rest.drop sign.length)
      if digits = 0 then 0 else 1 + sign.length + digits
    else 0
  | [] => 0

/-- How many characters the whole part of a decimal number has that a fraction or an exponent can
follow: zeros may not lead it. -/
def wholeLength (cs : List Char) : Nat :=
  match cs with
  | '0' :: c :: rest => if '1' ≤ c && c ≤ '9' then 1 + digitsLength isDigit (c :: rest) else 1
  | _ => digitsLength isDigit cs

/-- How many characters the fraction and the exponent have behind a whole part. -/
def fractionLength (cs : List Char) : Nat :=
  match cs with
  | '.' :: rest =>
    let digits := digitsLength isDigit rest
    1 + digits + exponentLength (rest.drop digits)
  | _ => exponentLength cs

/-- How many characters the number has that the text begins with; zero if it begins with none. The
longest reading counts. -/
def numberLength (cs : List Char) : Nat :=
  let suffixed (length : Nat) : Nat :=
    if length ≠ 0 ∧ (cs.drop length).head? = some 'n' then length + 1 else length
  let inBase (letters : List Char) (isDigit : Char → Bool) : Nat :=
    match cs with
    | '0' :: letter :: rest =>
      let digits := digitsLength isDigit rest
      if letters.contains letter && digits != 0 then suffixed (2 + digits) else 0
    | _ => 0
  let whole := wholeLength cs
  let decimal :=
    if whole ≠ 0 then whole + fractionLength (cs.drop whole)
    else match cs with
      | '.' :: c :: _ => if isDigit c then fractionLength cs else 0
      | _ => 0
  [inBase ['x', 'X'] isHexDigit, inBase ['b', 'B'] (fun c => c == '0' || c == '1'),
    inBase ['o', 'O'] (fun c => '0' ≤ c && c ≤ '7'), suffixed (digitsLength isDigit cs),
    decimal].foldl max 0

/-- What follows the number, if the text begins with one. -/
def number? (cs : List Char) : Option (List Char) :=
  (cut? (numberLength cs) cs).map (·.2)

/-! ## Strings -/

/-- How many characters an escape has behind its backslash; zero if it is none. -/
def escapeLength : List Char → Nat
  | [] => 0
  | c :: cs =>
    let isLineEnd (c : Char) : Bool := c == '\n' || c.toNat == 0x2028 || c.toNat == 0x2029
    if '0' ≤ c && c ≤ '7' then (((c :: cs).take 3).takeWhile fun c => '0' ≤ c && c ≤ '7').length
    else if c = 'x' then if ((cs.take 2).takeWhile isHexDigit).length = 2 then 3 else 0
    else if c = 'u' then escapedLength ('\\' :: c :: cs) - 1
    else if (c = '\r' ∨ c = '?') ∧ cs.head?.any isLineEnd then 2
    else 1

/-- What follows the quotation mark that closes a string, where `inside` more characters belong to an
escape. A line break may stand in a string only if nothing but white space and comments follows up to
the mark. -/
def closedString? (mark : Char) : Nat → List Char → Option (List Char)
  | _, [] => none
  | inside + 1, _ :: cs => closedString? mark inside cs
  | 0, c :: cs =>
    if c = mark then some cs
    else if c = '\\' then
      match escapeLength cs with
      | 0 => none
      | inside => closedString? mark inside cs
    else if c = '\n' ∨ c = '\r' then
      match skip cs with
      | d :: rest => if d = mark then some rest else none
      | [] => none
    else closedString? mark 0 cs

/-- What follows the string, if the text begins with one. -/
def string? : List Char → Option (List Char)
  | '"' :: cs => closedString? '"' 0 cs
  | '\'' :: cs => closedString? '\'' 0 cs
  | _ => none

/-! ## Regular expressions -/

/-- How many characters the pattern of a regular expression has up to its closing slash, or up to the
place where it breaks off. A slash between brackets does not close it. -/
def patternLength? (inSet : Bool) : List Char → Option Nat
  | [] => none
  | '\\' :: c :: cs => if c = '\n' then none else (patternLength? inSet cs).map (· + 2)
  | c :: cs =>
    if c = '\n' then none
    else if c = '/' ∧ inSet = false then some 0
    else (patternLength? (if inSet then c != ']' else c == '[') cs).map (· + 1)

/-- What follows the regular expression with its flags, if the text begins with one. -/
def regex? (cs : List Char) : Option (List Char) :=
  match cs with
  | '/' :: rest =>
    match patternLength? false rest with
    | some (n + 1) => some ((rest.drop (n + 2)).dropWhile fun c => 'a' ≤ c && c ≤ 'z')
    | _ => none
  | _ => none

end BeanGen.Script
