import BeanGen.Yaml.Cursor

/-!
# The text of scalars

A scalar is written plain, in quotation marks, or as an indented block. In all of them lines are
joined: one line break is read as a space, and of several the first is dropped. Literal blocks keep
every line break.
-/

namespace BeanGen.Yaml

/-- The text of joined lines: the break between two of them and the empty lines behind it. -/
def joint (break_ breaks : List Char) : List Char :=
  (if break_ ≠ ['\n'] then break_ else if breaks.isEmpty then [' '] else []) ++ breaks

/-! ## Quoted scalars -/

/-- Characters that a backslash stands for with one character behind it. -/
def escapes : List (Char × Char) :=
  [('0', '\x00'), ('a', '\x07'), ('b', '\x08'), ('t', '\t'), ('\t', '\t'), ('n', '\n'),
   ('v', '\x0b'), ('f', '\x0c'), ('r', '\r'), ('e', '\x1b'), (' ', ' '), ('"', '"'), ('\\', '\\'),
   ('/', '/'), ('N', '\u0085'), ('_', '\u00a0'), ('L', '\u2028'), ('P', '\u2029')]

/-- How many hexadecimal digits follow an escape that gives a code point. -/
def codeLengths : List (Char × Nat) :=
  [('x', 2), ('u', 4), ('U', 8)]

/-- The value of a hexadecimal digit. -/
def hexValue? (c : Char) : Option Nat :=
  if '0' ≤ c ∧ c ≤ '9' then some (c.toNat - 0x30)
  else if 'a' ≤ c ∧ c ≤ 'f' then some (c.toNat - 0x61 + 10)
  else if 'A' ≤ c ∧ c ≤ 'F' then some (c.toNat - 0x41 + 10)
  else none

/-- The number that hexadecimal digits write. -/
def hexNumber? (cs : List Char) : Option Nat :=
  cs.foldl (fun n? c => do return 16 * (← n?) + (← hexValue? c)) (some 0)

/-- The character of a code point, if there is one. -/
def charOf? (n : Nat) : Option Char :=
  if n.isValidChar then some (Char.ofNat n) else none

/-- The empty lines in a quoted scalar behind a line break. A document marker must not follow. -/
def quotedBreaks? : Nat → Cursor → Option (List Char × Cursor)
  | 0, _ => none
  | fuel + 1, cursor =>
    if cursor.atMarker then none
    else
      let cursor := cursor.skipWhile isBlank
      match cursor.lineBreak with
      | ([], _) => some ([], cursor)
      | (break_, cursor) => do
        let (breaks, cursor) ← quotedBreaks? fuel cursor
        return (break_ ++ breaks, cursor)

/-- The white space that a quoted scalar goes on with. -/
def quotedSpace? (cursor : Cursor) : Option (List Char × Cursor) :=
  let (blanks, cursor) := cursor.takeWhile isBlank
  match cursor.next, cursor.lineBreak with
  | none, _ => none
  | _, ([], _) => some (blanks, cursor)
  | _, (break_, cursor) => do
    let (breaks, cursor) ← quotedBreaks? (cursor.rest.length + 1) cursor
    return (joint break_ breaks, cursor)

/-- What an escape in a double-quoted scalar stands for. The cursor is behind the backslash. -/
def escaped? (cursor : Cursor) : Option (List Char × Cursor) := do
  let c ← cursor.next
  match escapes.lookup c with
  | some char => return ([char], cursor.forward)
  | none =>
    match codeLengths.lookup c with
    | some length =>
      let digits := cursor.forward.rest.take length
      if digits.length < length then none
      else return ([← charOf? (← hexNumber? digits)], cursor.forward.forwardBy length)
    | none =>
      if isBreak c then
        let cursor := cursor.lineBreak.2
        quotedBreaks? (cursor.rest.length + 1) cursor
      else none

/-- The rest of a quoted scalar and the place behind its closing mark. -/
def quoted? (double : Bool) : Nat → Cursor → Option (List Char × Cursor)
  | 0, _ => none
  | fuel + 1, cursor => do
    let c ← cursor.next
    let (text, cursor) ←
      if isBlank c || isBreak c then quotedSpace? cursor
      else if !double && cursor.startsWith "''" then some (['\''], cursor.forwardBy 2)
      else if c = (if double then '"' else '\'') then none
      else if double && c == '\\' then escaped? cursor.forward
      else some ([c], cursor.forward)
    if cursor.next = some (if double then '"' else '\'') &&
        !(!double && cursor.startsWith "''") then
      return (text, cursor.forward)
    else
      let (more, cursor) ← quoted? double fuel cursor
      return (text ++ more, cursor)

/-- The quoted scalar at the cursor. -/
def quotedScalar? (cursor : Cursor) : Option (String × Cursor) := do
  let double := cursor.next = some '"'
  let inside := cursor.forward
  let isEmpty := inside.next = cursor.next && !(!double && inside.startsWith "''")
  if isEmpty then return ("", inside.forward)
  else
    let (text, behind) ← quoted? double (inside.rest.length + 1) inside
    return (String.ofList text, behind)

/-! ## Plain scalars -/

/-- Characters that structure flow collections. -/
def flowMarks : String := ",[]\x7b\x7d"

/-- How many characters a plain scalar goes on with before white space or a mark. -/
def plainRun (inFlow : Bool) : List Char → Nat
  | [] => 0
  | c :: rest =>
    if isBlank c || isBreak c then 0
    else if c = ':' && (endsWord rest.head? || (inFlow && isIn flowMarks rest.head?)) then 0
    else if inFlow && (c == '?' || isIn flowMarks (some c)) then 0
    else plainRun inFlow rest + 1

/-- The empty lines and the indentation behind a line break in a plain scalar. -/
def plainBreaks : Nat → Cursor → List Char × Cursor
  | 0, cursor => ([], cursor)
  | fuel + 1, cursor =>
    let cursor := cursor.skipSpaces
    match cursor.lineBreak with
    | ([], _) => ([], cursor)
    | (break_, cursor) =>
      let (breaks, cursor) := plainBreaks fuel cursor
      (break_ ++ breaks, cursor)

/-- The white space behind a run of a plain scalar, and whether it holds a line break. It is empty if
the scalar ends in front of a document marker. -/
def plainSpace (cursor : Cursor) : List Char × Cursor × Bool :=
  let (spaces, cursor) := cursor.takeWhile (· == ' ')
  match cursor.lineBreak with
  | ([], _) => (spaces, cursor, false)
  | (break_, cursor) =>
    if cursor.atMarker then ([], cursor, true)
    else
      let (breaks, cursor) := plainBreaks (cursor.rest.length + 1) cursor
      if cursor.column = 0 && cursor.atMarker then ([], cursor, true)
      else (joint break_ breaks, cursor, true)

/-- The runs of a plain scalar behind `space`: the text, the place behind it, and whether the last
white space held a line break. Lines have to be indented by at least `indent`, except in flow
collections. -/
def plainRuns (inFlow : Bool) (indent : Int) : Nat → List Char → Cursor → Bool →
    List Char × Cursor × Bool
  | 0, _, cursor, broke => ([], cursor, broke)
  | fuel + 1, space, cursor, broke =>
    let length := if cursor.next = some '#' then 0 else plainRun inFlow cursor.rest
    if length = 0 then ([], cursor, broke)
    else
      let run := cursor.rest.take length
      let (space', cursor', broke') := plainSpace (cursor.forwardBy length)
      let (more, cursor, broke) :=
        if space'.isEmpty || cursor'.next == some '#' ||
            (!inFlow && (cursor'.column : Int) < indent) then ([], cursor', broke')
        else plainRuns inFlow indent fuel space' cursor' broke'
      (space ++ run ++ more, cursor, broke)

/-- The plain scalar at the cursor, and whether a line break follows it. -/
def plainScalar (inFlow : Bool) (indent : Int) (cursor : Cursor) : String × Cursor × Bool :=
  let (text, cursor, broke) := plainRuns inFlow indent (cursor.rest.length + 1) [] cursor false
  (String.ofList text, cursor, broke)

/-! ## Block scalars -/

/-- What becomes of the line breaks at the end of a block scalar. -/
inductive Chomping where
  | strip | clip | keep
  deriving DecidableEq, Repr

/-- The chomping that an indicator asks for. -/
def chompingOf? (c : Option Char) : Option Chomping :=
  match c with
  | some '+' => some .keep
  | some '-' => some .strip
  | _ => none

/-- The indentation that an indicator asks for. Zero is not allowed. -/
def indentationOf? (c : Option Char) : Option Nat :=
  c.bind fun c => if '0' ≤ c ∧ c ≤ '9' then some (c.toNat - 0x30) else none

/-- The indicators in the first line of a block scalar, in any order. -/
def blockHeader? (cursor : Cursor) : Option (Chomping × Option Nat × Cursor) := do
  let (chomping, indentation, cursor) : Option Chomping × Option Nat × Cursor :=
    match chompingOf? cursor.next with
    | some chomping =>
      match indentationOf? (cursor.peek 1) with
      | some n => (some chomping, some n, cursor.forwardBy 2)
      | none => (some chomping, none, cursor.forward)
    | none =>
      match indentationOf? cursor.next with
      | some n =>
        match chompingOf? (cursor.peek 1) with
        | some chomping => (some chomping, some n, cursor.forwardBy 2)
        | none => (none, some n, cursor.forward)
      | none => (none, none, cursor)
  if indentation = some 0 then none
  else if endsLine cursor.next || cursor.next = some ' ' then
    return (chomping.getD .clip, indentation, ← cursor.finishLine?)
  else none

/-- The place behind the spaces in front of a column. -/
def skipIndent (indent : Nat) (cursor : Cursor) : Cursor :=
  let spaces := (cursor.rest.takeWhile (· == ' ')).length
  cursor.forwardBy (min spaces (indent - cursor.column))

/-- The empty lines of a block scalar with a known indentation. -/
def blockBreaks (indent : Nat) : Nat → Cursor → List Char × Cursor
  | 0, cursor => ([], cursor)
  | fuel + 1, cursor =>
    let cursor := skipIndent indent cursor
    match cursor.lineBreak with
    | ([], _) => ([], cursor)
    | (break_, cursor) =>
      let (breaks, cursor) := blockBreaks indent fuel cursor
      (break_ ++ breaks, cursor)

/-- The empty lines at the beginning of a block scalar, and its widest indentation so far. -/
def leadingBreaks : Nat → Nat → Cursor → List Char × Nat × Cursor
  | 0, widest, cursor => ([], widest, cursor)
  | fuel + 1, widest, cursor =>
    let cursor := cursor.skipSpaces
    let widest := max widest cursor.column
    match cursor.lineBreak with
    | ([], _) => ([], widest, cursor)
    | (break_, cursor) =>
      let (breaks, widest, cursor) := leadingBreaks fuel widest cursor
      (break_ ++ breaks, widest, cursor)

/-- The lines of a block scalar. `breaks` are the line breaks in front of the line. The last line
break and those behind it are for the chomping. -/
def blockLines (folded : Bool) (indent : Nat) : Nat → List Char → Cursor →
    List Char × List Char × List Char × Cursor
  | 0, breaks, cursor => ([], [], breaks, cursor)
  | fuel + 1, breaks, cursor =>
    if cursor.column ≠ indent || cursor.next.isNone then ([], [], breaks, cursor)
    else
      let indented := cursor.next.any isBlank
      let (line, cursor) := cursor.takeWhile (!isBreak ·)
      let (break_, cursor) := cursor.lineBreak
      let (after, cursor) := blockBreaks indent (cursor.rest.length + 1) cursor
      if cursor.column = indent && cursor.next.isSome then
        let joined :=
          if folded && break_ == ['\n'] && !indented && !(cursor.next.any isBlank) then
            if after.isEmpty then [' '] else []
          else break_
        let (more, last, trailing, cursor) := blockLines folded indent fuel after cursor
        (breaks ++ line ++ joined ++ more, last, trailing, cursor)
      else (breaks ++ line, break_, after, cursor)

/-- The block scalar at the cursor, inside a collection with an indentation. -/
def blockScalar? (parent : Int) (cursor : Cursor) : Option (String × Cursor) := do
  let folded := cursor.next = some '>'
  let (chomping, indentation, cursor) ← blockHeader? cursor.forward
  let least := max 1 (parent + 1).toNat
  let (indent, breaks, cursor) := match indentation with
    | some n =>
      let indent := least + n - 1
      let (breaks, cursor) := blockBreaks indent (cursor.rest.length + 1) cursor
      (indent, breaks, cursor)
    | none =>
      let (breaks, widest, cursor) := leadingBreaks (cursor.rest.length + 1) 0 cursor
      (max least widest, breaks, cursor)
  let (text, last, trailing, cursor) :=
    blockLines folded indent (cursor.rest.length + 1) breaks cursor
  let tail := match chomping with
    | .strip => []
    | .clip => last
    | .keep => last ++ trailing
  return (String.ofList (text ++ tail), cursor)

end BeanGen.Yaml
