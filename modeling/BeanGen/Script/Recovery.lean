import BeanGen.Script.Follow
import BeanGen.Script.Lexeme

/-!
# Passing over what is broken

Where a script breaks the grammar, what is broken is passed over token by token, up to a place where
reading can go on. For that the tokens are read loosely: what a character begins follows from the
characters behind it; only a slash needs the token in front, because it divides behind an operand and
begins a regular expression elsewhere. Brackets are passed over with all that they enclose.
-/

namespace BeanGen.Script

/-! ## Loose tokens -/

/-- The kind of a token. -/
inductive Token.Kind where
  /-- A name or a keyword. -/
  | word
  /-- A number, a string, a template, a regular expression, or a name behind `#`. -/
  | literal
  | mark
  /-- A character that begins no token. -/
  | stray
  deriving DecidableEq, Repr

/-- A token and what is around it. -/
structure Token where
  kind : Token.Kind
  text : List Char
  /-- A line break stands in the white space in front. Those inside comments do not count. -/
  onNewLine : Bool
  /-- The text behind the token. -/
  rest : List Char

/-- Where in a template literal a character stands. -/
inductive TemplateMode where
  /-- In the text. -/
  | text
  /-- In an expression. -/
  | code
  /-- In a string of an expression. -/
  | quoted (mark : Char)
  deriving DecidableEq, Repr

/-- How many characters a template literal has behind its opening mark. The numbers are the braces
that are open in the expressions around the place, the innermost first. -/
def templateLength? : TemplateMode → List Nat → List Char → Option Nat
  | _, _, [] => none
  | .text, braces, '\\' :: _ :: cs => (templateLength? .text braces cs).map (· + 2)
  | .text, braces, '$' :: '\x7b' :: cs => (templateLength? .code (0 :: braces) cs).map (· + 2)
  | .text, braces, c :: cs =>
    if c = '\x60' then
      if braces.isEmpty then some 1 else (templateLength? .code braces cs).map (· + 1)
    else (templateLength? .text braces cs).map (· + 1)
  | .code, braces, c :: cs =>
    let open_ := braces.headD 0
    let outer := braces.drop 1
    let (mode, braces) : TemplateMode × List Nat :=
      if c = '\x7b' then (.code, (open_ + 1) :: outer)
      else if c = '\x7d' then
        if open_ = 0 then (.text, outer) else (.code, (open_ - 1) :: outer)
      else if c = '\x60' then (.text, braces)
      else if c = '\'' ∨ c = '"' then (.quoted c, braces)
      else (.code, braces)
    (templateLength? mode braces cs).map (· + 1)
  | .quoted mark, braces, '\\' :: _ :: cs => (templateLength? (.quoted mark) braces cs).map (· + 2)
  | .quoted mark, braces, c :: cs =>
    (templateLength? (if c = mark then .code else .quoted mark) braces cs).map (· + 1)

/-- Marks of several characters, the longer ones first. -/
def longMarks : List String :=
  ["...", "===", "!==", "**=", "??=", "=>", "==", "!=", "++", "--", "+=", "-=", "*=", "/=", "%=",
   "^=", "**", "??", "?."]

/-- Marks of one character. -/
def shortMarks : List Char :=
  ":;@.,|^&<=>+-*/%?!~()[]\x7b\x7d".toList

/-- What the token is that the text begins with, and how many characters it has. -/
def looseToken (afterOperand : Bool) (cs : List Char) : Token.Kind × Nat :=
  let behind (rest : List Char) : Nat := cs.length - rest.length
  if nameLength cs ≠ 0 then (.word, nameLength cs)
  else if numberLength cs ≠ 0 then (.literal, numberLength cs)
  else match (string? cs).or (if afterOperand then none else regex? cs) with
    | some rest => (.literal, behind rest)
    | none =>
      match privateName? cs, cs with
      | some (name, _), _ => (.literal, name.length)
      | none, '\x60' :: rest =>
        match templateLength? .text [] rest with
        | some length => (.literal, length + 1)
        | none => (.stray, 1)
      | none, _ =>
        match longMarks.find? (atMark · cs) with
        | some mark => (.mark, mark.length)
        | none => (if cs.head?.any shortMarks.contains then .mark else .stray, 1)

/-- A line break stands in the white space in front of the next token, where `inside` more characters
belong to a comment. -/
def breaksAhead : Nat → List Char → Bool
  | _, [] => false
  | inside + 1, _ :: cs => breaksAhead inside cs
  | 0, c :: cs =>
    if c = '\n' then true
    else if isSpace c then breaksAhead 0 cs
    else match max (commentLength (c :: cs)) (gapLength (c :: cs)) with
      | inside + 1 => breaksAhead inside cs
      | 0 => false

/-- The next token; none at the end of the script. -/
def token? (afterOperand : Bool) (cs : List Char) : Option Token :=
  match skip cs with
  | [] => none
  | here =>
    let (kind, length) := looseToken afterOperand here
    some ⟨kind, here.take length, breaksAhead 0 cs, here.drop length⟩

namespace Token

/-- This is the mark `s`. -/
def isMark (s : String) (token : Token) : Bool :=
  token.kind == .mark && token.text == s.toList

/-- This is one of the marks. -/
def isOneOfMarks (marks : List String) (token : Token) : Bool :=
  marks.any token.isMark

/-- This is the word `s`. -/
def isWord (s : String) (token : Token) : Bool :=
  token.kind == .word && token.text == s.toList

/-- This is one of the words. -/
def isOneOfWords (words : List String) (token : Token) : Bool :=
  words.any token.isWord

/-- This is a string. -/
def isString (token : Token) : Bool :=
  token.text.head? == some '"' || token.text.head? == some '\''

/-- The bracket that closes this one. -/
def closer? (token : Token) : Option String :=
  if token.isMark "(" then some ")"
  else if token.isMark "[" then some "]"
  else if token.isMark "\x7b" then some "\x7d"
  else none

/-- A closing bracket. -/
def isCloser (token : Token) : Bool :=
  token.isOneOfMarks [")", "]", "\x7d"]

/-- Words that ask for an operand. -/
def operatorWords : List String :=
  ["return", "typeof", "instanceof", "in", "of", "new", "delete", "void", "throw", "case", "do",
   "else", "yield", "await", "as", "satisfies", "extends", "default", "import"]

/-- Behind this token an operand is complete. -/
def endsOperand (token : Token) : Bool :=
  match token.kind with
  | .word => !token.isOneOfWords operatorWords
  | .literal => true
  | .mark => token.isCloser
  | .stray => false

end Token

/-! ## Brackets -/

/-- What follows the last of the closing brackets in `closers`, the innermost first. A closing brace
also closes the brackets inside it that are still open. -/
def skipTo : Nat → List String → Bool → List Char → List Char
  | 0, _, _, cs => cs
  | steps + 1, closers, afterOperand, cs =>
    match token? afterOperand cs with
    | none => []
    | some token =>
      match token.closer? with
      | some closer => skipTo steps (closer :: closers) false token.rest
      | none =>
        let open_ := closers.dropWhile fun closer => !token.isMark closer
        if token.isCloser && (closers.head?.any token.isMark || (token.isMark "\x7d" && !open_.isEmpty))
        then
          if (open_.drop 1).isEmpty then token.rest else skipTo steps (open_.drop 1) true token.rest
        else skipTo steps closers token.endsOperand token.rest

/-- What follows a token, and if it is an opening bracket, what follows the closing one. -/
def skipToken (steps : Nat) (token : Token) : List Char :=
  match token.closer? with
  | some closer => skipTo steps [closer] false token.rest
  | none => token.rest

/-! ## Where a declaration begins -/

/-- The words that may stand in front of the keyword of a declaration. -/
def declarationModifiers : List String :=
  ["export", "default", "declare", "abstract", "const"]

/-- The text begins with the keyword of a declaration, its name, and what can follow a name. -/
def atHeader (cs : List Char) : Bool :=
  match nextWord? cs with
  | none => false
  | some (keyword, rest) =>
    match nextWord? rest with
    | none => false
    | some (_, rest) =>
      let here := skip rest
      let isKeyword (s : String) : Bool := keyword == s.toList
      (isKeyword "interface" && (atAnyMark ["\x7b", "<"] here || atKeyword "extends" here)) ||
        (isKeyword "class" &&
          (atAnyMark ["\x7b", "<"] here || atAnyKeyword ["extends", "implements"] here)) ||
        (isKeyword "enum" && atMark "\x7b" here) ||
        (isKeyword "type" && atAnyMark ["=", "<"] here)

/-- What follows the words in front of a keyword. -/
def skipDeclarationModifiers (steps : Nat) (cs : List Char) : List Char :=
  match steps with
  | 0 => cs
  | steps + 1 =>
    match anyKeyword? declarationModifiers (skip cs) with
    | some rest => skipDeclarationModifiers steps rest
    | none => cs

/-- The text begins with a declaration or an import. -/
def startsDeclaration (steps : Nat) (cs : List Char) : Bool :=
  atHeader (skipDeclarationModifiers steps cs) ||
    (nextKeyword? "import" cs).any fun rest => atAnyMark ["\x7b", "*", "\"", "'"] (skip rest)

/-! ## Members and statements -/

/-- What follows something that broke the grammar: it ends behind a separator, in front of a closing
brace, or at the end of a line. -/
def skipBroken : Nat → Bool → Bool → List Char → List Char
  | 0, _, _, cs => cs
  | steps + 1, first, afterOperand, cs =>
    match token? afterOperand cs with
    | none => []
    | some token =>
      if token.isMark "\x7d" || (!first && token.onNewLine) then cs
      else if token.isOneOfMarks [";", ","] then token.rest
      else skipBroken steps false (token.endsOperand || token.closer?.isSome) (skipToken steps token)

/-- Keywords of statements that end with their block. -/
def blockKeywords : List String :=
  ["function", "class", "interface", "enum", "if", "else", "for", "while", "do", "try", "catch",
   "finally", "switch", "global"]

/-- The statement ends with its block. -/
def endsWithBlock (steps : Nat) (cs : List Char) : Bool :=
  let cs := skipKeyword "async" (skipDeclarationModifiers steps cs)
  atMark "\x7b" (skip cs) || atAnyKeyword blockKeywords (skip cs) ||
    (anyKeyword? ["namespace", "module"] (skip cs)).any fun rest =>
      (nextWord? rest).isSome || (string? (skip rest)).isSome

/-- A declaration begins here although the statement before is not finished. -/
def interrupts (steps : Nat) (afterOperand : Bool) (cs : List Char) : Bool :=
  startsDeclaration steps cs &&
    (afterOperand ||
      (breaksAhead 0 cs && (nextKeyword? "class" (skipDeclarationModifiers steps cs)).isNone))

/-- What follows a statement. `last` says whether an operand is complete behind its last token so far. -/
def skipRest (hasBlock : Bool) : Nat → Option Bool → List Char → List Char
  | 0, _, cs => cs
  | steps + 1, last, cs =>
    let afterOperand := last == some true
    match token? afterOperand cs with
    | none => []
    | some token =>
      if token.isMark ";" then token.rest
      else if token.isMark "\x7d" then if last.isNone then token.rest else cs
      else if afterOperand && (ahead .expression cs).isEmpty then cs
      else if last.isSome && interrupts steps afterOperand cs then cs
      else if token.isMark "\x7b" && hasBlock then skipToken steps token
      else
        let complete := token.endsOperand || token.closer?.isSome
        skipRest hasBlock steps (some complete) (skipToken steps token)

/-- What follows the statement that the text begins with. -/
def skipStatement (steps : Nat) (cs : List Char) : List Char :=
  skipRest (endsWithBlock steps cs) steps none cs

/-- What follows the end of a statement that is read: its semicolon or what does not belong to it. -/
def finish (steps : Nat) (cs : List Char) : List Char :=
  match nextMark? ";" cs with
  | some rest => rest
  | none =>
    if (ahead .expression cs).isEmpty || startsDeclaration steps cs then cs else skipStatement steps cs

/-- The text begins no statement. -/
def isMisplaced (token : Token) : Bool :=
  token.kind == .stray ||
    (token.kind == .mark &&
      !token.isOneOfMarks ["(", "[", "\x7b", "+", "-", "!", "~", "++", "--", "<"])

end BeanGen.Script
