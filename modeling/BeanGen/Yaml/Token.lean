import BeanGen.Yaml.Scalar

/-!
# Tokens of a document

`Token.ofText?` cuts a document into tokens and makes its indentation explicit: a block collection
begins with a token of its own and ends with `blockEnd`. That something is the key of a mapping shows
only at the colon behind it, so every place where a key may begin is remembered until the line ends,
and the colon puts the tokens of the key into the row at that place.
-/

namespace BeanGen.Yaml

/-- A line that says how to read the document. -/
inductive Directive where
  | version (major : Nat)
  | tagHandle (handle front : String)
  | other
  deriving DecidableEq, Repr

/-- A token of a document. -/
inductive Token where
  | directive (directive : Directive)
  | documentStart
  | documentEnd
  | blockSequence
  | blockMapping
  | blockEnd
  | flowSequence
  | flowSequenceEnd
  | flowMapping
  | flowMappingEnd
  | entry
  | comma
  | key
  | value
  | alias (name : String)
  | anchor (name : String)
  | tag (handle : Option String) (suffix : String)
  | scalar (plain : Bool) (text : String)
  deriving DecidableEq, Repr

/-- A character of the name of an anchor or of a tag handle. -/
def isNameChar (c : Char) : Bool :=
  c.isAlphanum || c == '-' || c == '_'

/-- The name behind the mark of an anchor or an alias. -/
def anchorName? (cursor : Cursor) : Option (String × Cursor) :=
  let (name, cursor) := cursor.forward.takeWhile isNameChar
  if !name.isEmpty && (endsWord cursor.next || isIn "?:,]\x7d%@\x60" cursor.next) then
    some (String.ofList name, cursor)
  else none

/-- A character of the text of a tag. -/
def isTagChar (c : Char) : Bool :=
  c.isAlphanum || isIn "-;/?:@&=+$,_.!~*'()[]" (some c)

/-- The text of a tag; an escaped byte has a percent sign and two hexadecimal digits. -/
def tagBytes? : Nat → Cursor → Option (List UInt8 × Cursor)
  | 0, _ => none
  | fuel + 1, cursor =>
    match cursor.next with
    | some '%' => do
      let digits := cursor.forward.rest.take 2
      let byte ← if digits.length = 2 then hexNumber? digits else none
      let (more, cursor) ← tagBytes? fuel (cursor.forwardBy 3)
      return (byte.toUInt8 :: more, cursor)
    | some c =>
      if isTagChar c then do
        let (more, cursor) ← tagBytes? fuel cursor.forward
        return (c.toString.toUTF8.data.toList ++ more, cursor)
      else some ([], cursor)
    | none => some ([], cursor)

/-- The text of a tag, which is not empty. -/
def tagText? (cursor : Cursor) : Option (String × Cursor) := do
  let (bytes, cursor) ← tagBytes? (cursor.rest.length + 1) cursor
  if bytes.isEmpty then none
  else return (← String.fromUTF8? ⟨bytes.toArray⟩, cursor)

/-- The handle of a tag with its exclamation marks. -/
def tagHandle? (cursor : Cursor) : Option (String × Cursor) :=
  if cursor.next ≠ some '!' then none
  else if cursor.peek 1 = some ' ' then some ("!", cursor.forward)
  else
    let (name, behind) := cursor.forward.takeWhile isNameChar
    if behind.next = some '!' then some ("!" ++ String.ofList name ++ "!", behind.forward) else none

/-- The tag at the cursor. White space has to follow. -/
def tag? (cursor : Cursor) : Option (Token × Cursor) := do
  let (token, cursor) ←
    if cursor.peek 1 = some '<' then do
      let (text, cursor) ← tagText? (cursor.forwardBy 2)
      if cursor.next = some '>' then some (Token.tag none text, cursor.forward) else none
    else if endsWord (cursor.peek 1) then some (Token.tag none "!", cursor.forward)
    else do
      let word := cursor.forward.rest.takeWhile fun c => !(isBreak c || c == ' ')
      let (handle, cursor) ←
        if word.contains '!' then tagHandle? cursor else some ("!", cursor.forward)
      let (text, cursor) ← tagText? cursor
      some (Token.tag (some handle) text, cursor)
  if endsLine cursor.next || cursor.next = some ' ' then return (token, cursor) else none

/-- A number of a version. -/
def versionNumber? (cursor : Cursor) : Option (Nat × Cursor) :=
  let (digits, cursor) := cursor.takeWhile Char.isDigit
  if digits.isEmpty then none
  else some (digits.foldl (fun n c => 10 * n + (c.toNat - 0x30)) 0, cursor)

/-- The place behind the line, if the last word on it ends here. -/
def finishWord? (cursor : Cursor) : Option Cursor :=
  if endsLine cursor.next || cursor.next = some ' ' then cursor.finishLine? else none

/-- The directive at the cursor, up to the end of its line. -/
def directive? (cursor : Cursor) : Option (Directive × Cursor) := do
  let (name, cursor) := cursor.forward.takeWhile isNameChar
  if name.isEmpty || !(endsLine cursor.next || cursor.next = some ' ') then none
  else if name = "YAML".toList then do
    let (major, cursor) ← versionNumber? cursor.skipSpaces
    if cursor.next ≠ some '.' then none
    else do
      let (_, cursor) ← versionNumber? cursor.forward
      return (.version major, ← finishWord? cursor)
  else if name = "TAG".toList then do
    let (handle, cursor) ← tagHandle? cursor.skipSpaces
    if cursor.next ≠ some ' ' then none
    else do
      let (front, cursor) ← tagText? cursor.skipSpaces
      return (.tagHandle handle front, ← finishWord? cursor)
  else return (.other, ← (cursor.skipWhile (!isBreak ·)).finishLine?)

/-- A place where a key may have begun. -/
structure KeyPlace where
  /-- How many tokens stand in front of it. -/
  before : Nat
  /-- Nothing but a key can stand there. -/
  required : Bool
  index : Nat
  line : Nat
  column : Nat
  deriving Repr

/-- What is known at a place of the document. -/
structure Reading where
  cursor : Cursor
  tokens : Array Token := #[]
  /-- How many flow collections are open. -/
  depth : Nat := 0
  /-- The column of the innermost block collection. -/
  indent : Int := -1
  /-- The columns of the block collections around it. -/
  outer : List Int := []
  /-- A key may begin here. -/
  keyAllowed : Bool := true
  /-- The places of possible keys, at most one for each depth. -/
  keys : List (Nat × KeyPlace) := []

namespace Reading

/-- Adds a token. -/
def push (reading : Reading) (token : Token) : Reading :=
  { reading with tokens := reading.tokens.push token }

/-- Moves the cursor. -/
def moveTo (reading : Reading) (cursor : Cursor) : Reading :=
  { reading with cursor := cursor }

/-- Says whether a key may begin next. -/
def allowKey (reading : Reading) (allowed : Bool) : Reading :=
  { reading with keyAllowed := allowed }

/-- The place behind spaces, comments and line breaks. Outside of flow collections a key may begin on
a new line. -/
def skipGap (inFlow : Bool) : Nat → Cursor → Bool → Cursor × Bool
  | 0, cursor, allowed => (cursor, allowed)
  | fuel + 1, cursor, allowed =>
    let cursor := cursor.skipSpaces.skipComment
    match cursor.lineBreak with
    | ([], _) => (cursor, allowed)
    | (_, cursor) => skipGap inFlow fuel cursor (allowed || !inFlow)

/-- Moves to the next token. A byte order mark may begin the document. -/
def toNextToken (reading : Reading) : Reading :=
  let cursor := reading.cursor
  let cursor :=
    if cursor.index = 0 && cursor.next.any (·.toNat == 0xfeff) then cursor.forward else cursor
  let (cursor, allowed) :=
    skipGap (reading.depth != 0) (cursor.rest.length + 1) cursor reading.keyAllowed
  { reading with cursor := cursor, keyAllowed := allowed }

/-- Forgets the places of keys on earlier lines, or too far back. -/
def forgetStale? (reading : Reading) : Option Reading :=
  let isStale (key : KeyPlace) : Bool :=
    key.line != reading.cursor.line || key.index + 1024 < reading.cursor.index
  if reading.keys.any fun entry => isStale entry.2 && entry.2.required then none
  else some { reading with keys := reading.keys.filter fun entry => !isStale entry.2 }

/-- Forgets the place of a key at the current depth. -/
def forgetKey? (reading : Reading) : Option Reading :=
  match reading.keys.lookup reading.depth with
  | some key =>
    if key.required then none
    else some { reading with keys := reading.keys.filter (·.1 != reading.depth) }
  | none => some reading

/-- Remembers that a key may begin here. -/
def rememberKey? (reading : Reading) : Option Reading :=
  if !reading.keyAllowed then some reading
  else do
    let key : KeyPlace :=
      { before := reading.tokens.size
        required := reading.depth == 0 && reading.indent == (reading.cursor.column : Int)
        index := reading.cursor.index
        line := reading.cursor.line
        column := reading.cursor.column }
    let reading ← reading.forgetKey?
    return { reading with keys := (reading.depth, key) :: reading.keys }

/-- Ends the block collections that are indented deeper than `column`. -/
def closeBlocks (column : Int) : List Int → Reading → Reading
  | [], reading => reading
  | indent :: outer, reading =>
    if column < reading.indent then
      closeBlocks column outer
        { reading.push .blockEnd with indent := indent, outer := outer }
    else reading

/-- Ends the block collections that the indentation of the next token ends. -/
def unwind (column : Int) (reading : Reading) : Reading :=
  if reading.depth ≠ 0 then reading else closeBlocks column reading.outer reading

/-- Begins a block collection at a column, unless one is open there. -/
def openBlock (column : Nat) (token : Token) (reading : Reading) : Reading :=
  if reading.indent < column then
    { reading.push token with indent := column, outer := reading.indent :: reading.outer }
  else reading

/-- A document marker or a directive ends all collections. -/
def closeAll? (reading : Reading) : Option Reading :=
  (reading.unwind (-1)).forgetKey?.map (·.allowKey false)

/-- Reads an opening bracket. -/
def openFlow? (token : Token) (reading : Reading) : Option Reading := do
  let reading ← reading.rememberKey?
  return ({ reading with depth := reading.depth + 1 }.allowKey true).moveTo reading.cursor.forward
    |>.push token

/-- Reads a closing bracket. -/
def closeFlow? (token : Token) (reading : Reading) : Option Reading := do
  let reading ← reading.forgetKey?
  if reading.depth = 0 then none
  else
    return ({ reading with depth := reading.depth - 1 }.allowKey false).moveTo
      reading.cursor.forward |>.push token

/-- Reads a comma. -/
def comma? (reading : Reading) : Option Reading := do
  let reading ← (reading.allowKey true).forgetKey?
  return (reading.moveTo reading.cursor.forward).push .comma

/-- Reads the mark of a sequence entry. -/
def entry? (reading : Reading) : Option Reading := do
  let reading ←
    if reading.depth ≠ 0 then some reading
    else if reading.keyAllowed then some (reading.openBlock reading.cursor.column .blockSequence)
    else none
  let reading ← (reading.allowKey true).forgetKey?
  return (reading.moveTo reading.cursor.forward).push .entry

/-- Reads the mark of an explicit key. -/
def key? (reading : Reading) : Option Reading := do
  let reading ←
    if reading.depth ≠ 0 then some reading
    else if reading.keyAllowed then some (reading.openBlock reading.cursor.column .blockMapping)
    else none
  let reading ← (reading.allowKey (reading.depth == 0)).forgetKey?
  return (reading.moveTo reading.cursor.forward).push .key

/-- Reads a colon. If a key may have begun before it, it did; a block mapping may begin with it. -/
def value? (reading : Reading) : Option Reading := do
  let reading ← match reading.keys.lookup reading.depth with
    | some key =>
      let begins := reading.depth == 0 && reading.indent < (key.column : Int)
      let inserted := if begins then [Token.blockMapping, .key] else [.key]
      some { reading with
        keys := reading.keys.filter (·.1 != reading.depth)
        tokens :=
          reading.tokens.extract 0 key.before ++ inserted.toArray ++
            reading.tokens.extract key.before reading.tokens.size
        indent := if begins then key.column else reading.indent
        outer := if begins then reading.indent :: reading.outer else reading.outer
        keyAllowed := false }
    | none =>
      if reading.depth ≠ 0 then (reading.allowKey false).forgetKey?
      else if reading.keyAllowed then
        ((reading.openBlock reading.cursor.column .blockMapping).allowKey true).forgetKey?
      else none
  return (reading.moveTo reading.cursor.forward).push .value

/-- Reads a token that may be a key or begin one. -/
def operand? (reading : Reading) (read : Cursor → Option (Token × Cursor)) : Option Reading := do
  let reading ← reading.rememberKey?
  let (token, cursor) ← read reading.cursor
  return ((reading.allowKey false).moveTo cursor).push token

/-- Reads a plain scalar. -/
def plain? (reading : Reading) : Option Reading := do
  let reading ← reading.rememberKey?
  let (text, cursor, broke) := plainScalar (reading.depth != 0) (reading.indent + 1) reading.cursor
  return ((reading.allowKey broke).moveTo cursor).push (.scalar true text)

/-- Reads a block scalar. -/
def block? (reading : Reading) : Option Reading := do
  let reading ← (reading.allowKey true).forgetKey?
  let (text, cursor) ← blockScalar? reading.indent reading.cursor
  return (reading.moveTo cursor).push (.scalar false text)

/-- A plain scalar can begin with this character. -/
def beginsPlain (reading : Reading) (c : Char) : Bool :=
  !(isBlank c || isBreak c || isIn "-?:,[]\x7b\x7d#&*!|>'\"%@\x60" (some c)) ||
    (!endsWord (reading.cursor.peek 1) && (c == '-' || (reading.depth == 0 && (c == '?' || c == ':'))))

/-- Reads the token that begins with a character. -/
def token? (reading : Reading) (c : Char) : Option Reading :=
  let cursor := reading.cursor
  let inBlock := reading.depth == 0
  if c = '%' && cursor.column = 0 then do
    let reading ← reading.closeAll?
    let (directive, cursor) ← directive? cursor
    return (reading.moveTo cursor).push (.directive directive)
  else if cursor.column = 0 && cursor.atMarker then do
    let reading ← reading.closeAll?
    return (reading.moveTo (cursor.forwardBy 3)).push
      (if c = '-' then .documentStart else .documentEnd)
  else if c = '[' then reading.openFlow? .flowSequence
  else if c = '\x7b' then reading.openFlow? .flowMapping
  else if c = ']' then reading.closeFlow? .flowSequenceEnd
  else if c = '\x7d' then reading.closeFlow? .flowMappingEnd
  else if c = ',' then reading.comma?
  else if c = '-' && endsWord (cursor.peek 1) then reading.entry?
  else if c = '?' && (!inBlock || endsWord (cursor.peek 1)) then reading.key?
  else if c = ':' && (!inBlock || endsWord (cursor.peek 1)) then reading.value?
  else if c = '*' then
    reading.operand? fun cursor => (anchorName? cursor).map fun (name, cursor) => (.alias name, cursor)
  else if c = '&' then
    reading.operand? fun cursor => (anchorName? cursor).map fun (name, cursor) => (.anchor name, cursor)
  else if c = '!' then reading.operand? tag?
  else if (c = '|' || c = '>') && inBlock then reading.block?
  else if c = '\'' || c = '"' then
    reading.operand? fun cursor =>
      (quotedScalar? cursor).map fun (text, cursor) => (.scalar false text, cursor)
  else if reading.beginsPlain c then reading.plain?
  else none

/-- Reads all tokens. Each takes at least one character. -/
def all? : Nat → Reading → Option (Array Token)
  | 0, _ => none
  | fuel + 1, reading => do
    let reading ← reading.toNextToken.forgetStale?
    let reading := reading.unwind reading.cursor.column
    match reading.cursor.next with
    | none => return (← reading.closeAll?).tokens
    | some c => all? fuel (← reading.token? c)

end Reading

/-- The tokens of a document; nothing if it breaks the rules. -/
def Token.ofText? (text : String) : Option (List Token) :=
  if text.toList.all isPrintable then
    (Reading.all? (text.toList.length + 1) { cursor := { rest := text.toList } }).map (·.toList)
  else none

end BeanGen.Yaml
