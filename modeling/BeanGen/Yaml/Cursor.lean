/-!
# Places in a document

A cursor stands in front of a character of a YAML document and knows the line and the column, which
carry the structure of the document. Lines end with a line feed, a carriage return, both, or one of
the separators of Unicode.
-/

namespace BeanGen.Yaml

/-- A place in a document, with what follows it. -/
structure Cursor where
  rest : List Char
  index : Nat := 0
  line : Nat := 0
  column : Nat := 0
  deriving Repr

/-- A character that ends a line. -/
def isBreak (c : Char) : Bool :=
  c == '\n' || c == '\r' || c.toNat == 0x85 || c.toNat == 0x2028 || c.toNat == 0x2029

/-- A space or a tab. -/
def isBlank (c : Char) : Bool :=
  c == ' ' || c == '\t'

/-- The end of a line or of the document. -/
def endsLine (c : Option Char) : Bool :=
  c.all isBreak

/-- What ends a word: a space, a tab, or the end of the line. -/
def endsWord (c : Option Char) : Bool :=
  c.all fun c => isBreak c || isBlank c

/-- One of the characters. The end of the document is none. -/
def isIn (set : String) (c : Option Char) : Bool :=
  c.any set.toList.contains

namespace Cursor

/-- The character that is `n` characters ahead. -/
def peek (cursor : Cursor) (n : Nat) : Option Char :=
  cursor.rest[n]?

/-- The next character. -/
def next (cursor : Cursor) : Option Char :=
  cursor.rest.head?

/-- The text goes on with this. -/
def startsWith (cursor : Cursor) (s : String) : Bool :=
  s.toList.isPrefixOf cursor.rest

/-- One character further. A byte order mark takes no column. -/
def forward (cursor : Cursor) : Cursor :=
  match cursor.rest with
  | [] => cursor
  | c :: rest =>
    if isBreak c && !(c == '\r' && rest.head? == some '\n') then
      ⟨rest, cursor.index + 1, cursor.line + 1, 0⟩
    else
      ⟨rest, cursor.index + 1, cursor.line,
        if c.toNat = 0xfeff then cursor.column else cursor.column + 1⟩

/-- Some characters further. -/
def forwardBy (cursor : Cursor) : Nat → Cursor
  | 0 => cursor
  | n + 1 => cursor.forward.forwardBy n

/-- The longest run of characters with a property, and the place behind it. -/
def takeWhile (p : Char → Bool) (cursor : Cursor) : List Char × Cursor :=
  let run := cursor.rest.takeWhile p
  (run, cursor.forwardBy run.length)

/-- The place behind a run of characters with a property. -/
def skipWhile (p : Char → Bool) (cursor : Cursor) : Cursor :=
  (cursor.takeWhile p).2

/-- The place behind the spaces. -/
def skipSpaces (cursor : Cursor) : Cursor :=
  cursor.skipWhile (· == ' ')

/-- The line break that the text goes on with, and the place behind it; nothing is read if there is
none. All breaks of ASCII and NEL are read as a line feed. -/
def lineBreak (cursor : Cursor) : List Char × Cursor :=
  match cursor.next with
  | none => ([], cursor)
  | some c =>
    if !isBreak c then ([], cursor)
    else if cursor.startsWith "\r\n" then (['\n'], cursor.forwardBy 2)
    else if c.toNat = 0x2028 ∨ c.toNat = 0x2029 then ([c], cursor.forward)
    else (['\n'], cursor.forward)

/-- A line with a document marker begins here. -/
def atMarker (cursor : Cursor) : Bool :=
  (cursor.startsWith "---" || cursor.startsWith "...") && endsWord (cursor.peek 3)

/-- The place behind a comment, if one begins here. -/
def skipComment (cursor : Cursor) : Cursor :=
  if cursor.next = some '#' then cursor.skipWhile (!isBreak ·) else cursor

/-- The place behind the line, if nothing but spaces and a comment is left on it. -/
def finishLine? (cursor : Cursor) : Option Cursor :=
  let cursor := cursor.skipSpaces.skipComment
  if endsLine cursor.next then some cursor.lineBreak.2 else none

end Cursor

/-- The characters that a document may hold. -/
def isPrintable (c : Char) : Bool :=
  let n := c.toNat
  n == 0x09 || n == 0x0a || n == 0x0d || (0x20 ≤ n && n ≤ 0x7e) || n == 0x85 ||
    (0xa0 ≤ n && n ≤ 0xd7ff) || (0xe000 ≤ n && n ≤ 0xfffd) || 0x10000 ≤ n

end BeanGen.Yaml
