import BeanGen.Script.Member
import BeanGen.Script.Type

/-!
# Expressions

Of an expression, only its end matters: operands with operators between them are read in a row, without
regard to how tightly the operators bind. What an operator can follow does matter: only some operands
can be assigned to, and a sign of less than may begin type arguments.
-/

namespace BeanGen.Script

/-! ## Blocks -/

/-- The text behind the comments that belong to a block, where `inside` more characters belong to a
comment: those up to a place where the statement around the block may end. -/
def blockTail? : Nat → List Char → Option (List Char)
  | _, [] => none
  | inside + 1, _ :: cs =>
    if inside = 0 ∧ endsAt .expression cs then some cs else blockTail? inside cs
  | 0, c :: cs =>
    if isSpace c then blockTail? 0 cs
    else match commentLength (c :: cs) with
      | inside + 1 => blockTail? inside cs
      | 0 => none

/-- What follows a block and the comments that belong to it. -/
def block? (reader : Reader) (cs : List Char) : Option (List Char) := do
  let rest ← reader.rest? .block cs
  return if endsAt .expression rest then rest else (blockTail? 0 rest).getD rest

/-! ## Literals -/

/-- What follows a template literal behind its opening mark. -/
def template? (reader : Reader) : Nat → List Char → Option (List Char)
  | 0, _ => none
  | steps + 1, cs =>
    match cs with
    | [] => none
    | '\x60' :: rest => some rest
    | '\\' :: rest =>
      match escapeLength rest with
      | 0 => none
      | length => template? reader steps (rest.drop length)
    | '$' :: '\x7b' :: rest => do
      let rest ← nextMark? "\x7d" (← reader.expressions? .operand rest)
      template? reader steps rest
    | _ :: rest => template? reader steps rest

/-- What follows an entry of an object literal or an object pattern: an entry spread, a method, a key
with its value, or a name, which may have a default. -/
def objectItem? (reader : Reader) (cs : List Char) : Option (List Char) :=
  match nextMark? "..." cs with
  | some rest => reader.expression? .operand rest
  | none => do
    let visible := (modifier? .bracketed visibilities cs).getD cs
    let cs := skipModifiers .bracketed ["static", "override", "readonly"] visible
    let method := methodModifiers? .bracketed cs
    let (_, rest) ← memberName? reader (method.getD cs)
    let here := skip rest
    if method.isSome || atAnyMark ["(", "<", "?"] here then do
      block? reader (← signature? reader .bracketed (skipMark "?" rest))
    else match (mark? ":" here).or (mark? "=" here) with
      | some value => reader.expression? .operand value
      | none => if (nextWord? cs).isSome then some rest else none

/-- What follows an object literal behind its opening brace. -/
def object? (reader : Reader) (cs : List Char) : Option (List Char) :=
  listed? (objectItem? reader) true "\x7d" reader.steps cs

/-- What follows an element of an array literal. -/
def element? (reader : Reader) (cs : List Char) : Option (List Char) :=
  reader.expression? .operand ((nextMark? "..." cs).getD cs)

/-- What follows expressions in brackets, which may be said to have a type. -/
def parenthesized? (reader : Reader) (cs : List Char) : Option (List Char) := do
  let rest ← reader.expressions? .operand (← nextMark? "(" cs)
  match nextMark? ":" rest with
  | some type => nextMark? ")" (← reader.type? .bracketed type)
  | none => nextMark? ")" rest

/-! ## Patterns -/

/-- A name, and what follows it. Keywords that begin an expression are no names. -/
def identifier? (cs : List Char) : Option (List Char) := do
  let (_, rest) ← nextWord? cs
  if atAnyKeyword operandKeywords (skip cs) then none else return rest

/-- What follows a pattern: a name, or an object or an array that is taken apart. -/
def pattern? (reader : Reader) (cs : List Char) : Option (List Char) :=
  match skip cs with
  | '\x7b' :: rest => object? reader rest
  | '[' :: rest => listed? (element? reader) true "]" reader.steps rest
  | here => identifier? here

/-! ## Functions -/

/-- What follows the arrow and the body of an arrow function. -/
def arrowBody? (reader : Reader) (follow : Follow) (typedArrows : Bool) (cs : List Char) :
    Option (List Char) := do
  let body ← nextMark? "=>" cs
  (block? reader body).or (reader.rest? (.expression follow typedArrows) body)

/-- What follows an arrow function with its parameters in brackets. -/
def arrowFunction? (reader : Reader) (follow : Follow) (typedArrows : Bool) (cs : List Char) :
    Option (List Char) := do
  let rest ← parameters? reader (← optionalTypeParameters? reader cs)
  match nextMark? ":" rest with
  | some type =>
    if typedArrows then arrowBody? reader follow typedArrows (← result? reader .bracketed type)
    else none
  | none => arrowBody? reader follow typedArrows rest

/-- What follows a function behind its keyword. -/
def function? (reader : Reader) (cs : List Char) : Option (List Char) := do
  let rest := skipMark "*" cs
  let rest := ((nextWord? rest).map (·.2)).getD rest
  block? reader (← signature? reader .bracketed rest)

/-! ## Operands -/

/-- An operand that can be assigned to. -/
def Reading.place (rest : List Char) : Reading := { rest, assignable := true }

/-- Keywords that are operators in front of an operand. -/
def operandOperators : List String := ["typeof", "void", "delete", "await"]

/-- An operand that begins with a word. -/
def wordOperand? (reader : Reader) (follow : Follow) (typedArrows : Bool)
    (word rest : List Char) : Option Reading :=
  let isWord (s : String) : Bool := word == s.toList
  let arrow := if atMark "=>" (ahead follow rest)
    then arrowBody? reader follow typedArrows rest else none
  let operand (cs : List Char) : Option Reading := reader.read (.operand follow typedArrows) cs
  if operandOperators.any isWord then operand rest
  else if isWord "function" then (function? reader rest).map .ending
  else if isWord "class" then (reader.rest? .classValue rest).map .ending
  else if isWord "yield" then
    let here := ahead follow rest
    match if atAnyMark ["**", "*="] here then none else mark? "*" here with
    | some rest => operand rest
    | none =>
      if atAnyKeyword ["as", "satisfies", "in", "instanceof", "of", "implements"] here then
        some (.ending rest)
      else some ((operand here).getD (.ending rest))
  else if isWord "import" then
    if atAnyMark ["(", ".", "?.", "<"] (skip rest) then some (.ending rest) else none
  else if isWord "using" then operand rest
  else if ["this", "super", "null", "true", "false"].any isWord then some (.ending rest)
  else if let some rest := arrow then some (.ending rest)
  else if isWord "new" then
    match nextMark? "." rest with
    | some rest => (nextKeyword? "target" rest).map .ending
    | none => some ((operand (ahead follow rest)).getD (.place rest))
  else if isWord "async" then
    match keyword? "function" (ahead follow rest) with
    | some rest => (function? reader rest).map .ending
    | none =>
      let here := ahead follow rest
      let arrow := (arrowFunction? reader follow typedArrows here).or <| do
        let (_, rest) ← word? here
        if atMark "=>" (skip rest) then arrowBody? reader follow typedArrows rest else none
      some ((arrow.map .ending).getD (.place rest))
  else if isWord "namespace" then
    match (word? (ahead follow rest)).map (·.2) |>.or (string? (ahead follow rest)) with
    | some rest =>
      let rest := skipSelected reader.steps rest
      some (.ending ((if atMark "\x7b" (ahead follow rest) then block? reader rest else none).getD rest))
    | none => some (.place rest)
  else some (.place rest)

/-- An operand with the operators in front of it, from its first token on. -/
def operand? (reader : Reader) (follow : Follow) (typedArrows : Bool) (cs : List Char) :
    Option Reading :=
  let cs := skip cs
  match word? cs with
  | some (word, rest) => wordOperand? reader follow typedArrows word rest
  | none =>
    match ((number? cs).or (string? cs)).or (regex? cs) with
    | some rest => some (.ending rest)
    | none =>
      match (mark? "++" cs).or (mark? "--" cs) with
      | some rest => reader.read (.operand follow typedArrows) rest
      | none =>
        match cs with
        | '\x60' :: rest => (template? reader reader.steps rest).map .ending
        | '\x7b' :: rest => (object? reader rest).map .place
        | '[' :: rest => (listed? (element? reader) true "]" reader.steps rest).map .place
        | '(' :: _ =>
          match arrowFunction? reader follow typedArrows cs with
          | some rest => some (.ending rest)
          | none => (parenthesized? reader cs).map .place
        | '<' :: _ =>
          match arrowFunction? reader follow typedArrows cs with
          | some rest => some (.ending rest)
          | none => (typeArguments? reader cs).bind (reader.read (.operand follow typedArrows))
        | '@' :: _ =>
          (nextKeyword? "class" (skipDecorators reader cs)).bind fun rest =>
            (reader.rest? .classValue rest).map .ending
        | '#' :: _ => do
          let (_, rest) ← privateName? cs
          if atKeyword "in" (ahead follow rest) then return .ending rest else none
        | c :: rest =>
          if "!~+-".toList.contains c then
            reader.read (.operand follow typedArrows) rest
          else none
        | [] => none

/-! ## Operators behind an operand -/

/-- Operators with an operand on either side, the longer ones first. -/
def binaryOperators : List String :=
  [">>>", "===", "!==", "&&", "||", ">>", "<<", "**", "<=", ">=", "==", "!=", "??", "&", "^", "|",
   "+", "-", "*", "/", "%", "<", ">"]

/-- Operators that assign, the longer ones first. -/
def assignments : List String :=
  [">>>=", ">>=", "<<=", "**=", "&&=", "||=", "??=", "+=", "-=", "*=", "/=", "%=", "^=", "&=", "|="]

/-- What follows an operand, if the text may go on with one. -/
def beginsOperand (cs : List Char) : Bool :=
  let cs := skip cs
  match word? cs with
  | some _ => !atAnyKeyword ["in", "instanceof", "as", "satisfies", "of"] cs
  | none =>
    numberLength cs != 0 || atAnyMark ["\x60", "\x7b", "[", "\"", "'", "@", "#", "~"] cs ||
      (atMark "!" cs && !atMark "!=" cs)

/-- Type arguments behind an operand, unless they are signs of order: an operand that follows them could
not stand behind type arguments. -/
def argumentTypes? (reader : Reader) (follow : Follow) (cs : List Char) : Option (List Char) := do
  let rest ← typeArguments? reader cs
  let here := ahead follow rest
  if beginsOperand here && !atMark "\x60" here then none else return rest

/-- What follows what is selected of an operand: a member, an element, a call, or a template. -/
def selection? (reader : Reader) (follow : Follow) (here : List Char) : Option Reading :=
  match here with
  | '.' :: rest => ((nextWord? rest).or (privateName? (skip rest))).map fun (_, rest) => .place rest
  | '?' :: '.' :: rest =>
    match (nextWord? rest).or (privateName? (skip rest)) with
    | some (_, rest) => some (.place rest)
    | none =>
      match nextMark? "[" rest with
      | some index => do return .place (← nextMark? "]" (← reader.expressions? .operand index))
      | none => (arguments? reader (skipTypeArguments reader rest)).map .ending
  | '[' :: rest => do return .place (← nextMark? "]" (← reader.expressions? .operand rest))
  | '(' :: _ => (arguments? reader here).map .ending
  | '\x60' :: rest => (template? reader reader.steps rest).map .ending
  | '<' :: _ => (argumentTypes? reader follow here).map .ending
  | _ => none

/-- What follows a conditional expression behind its condition. -/
def conditional? (reader : Reader) (follow : Follow) (typedArrows : Bool) (cs : List Char) :
    Option Reading := do
  let rest ← questionMark? cs
  let otherwise (typedArrows : Bool) : Option (List Char) := do
    nextMark? ":" (← reader.rest? (.expression .operand typedArrows) rest)
  reader.read (.operand follow typedArrows) (← (otherwise true).or (otherwise false))

/-- What follows an operator and its operand behind an expression. -/
def operation? (reader : Reader) (follow : Follow) (typedArrows assignable : Bool)
    (here : List Char) : Option Reading :=
  let operand (cs : List Char) : Option Reading := operand? reader follow typedArrows cs
  match (mark? "++" here).or (mark? "--" here) with
  | some rest => some (.ending rest)
  | none =>
    match conditional? reader follow typedArrows here with
    | some reading => some reading
    | none =>
      match anyKeyword? ["in", "instanceof"] here with
      | some rest => operand rest
      | none =>
        match anyKeyword? ["as", "satisfies"] here with
        | some rest => (reader.type? follow rest).map .ending
        | none =>
          match assignments.findSome? (mark? · here) with
          | some rest => if assignable then operand rest else none
          | none =>
            match binaryOperators.findSome? (mark? · here) with
            | some rest => operand rest
            | none =>
              match here with
              | '!' :: rest => some (.place rest)
              | '=' :: rest => if assignable && !atAnyMark ["=", ">"] rest then operand rest else none
              | _ => none

/-- One more operator behind an expression. -/
def further? (reader : Reader) (follow : Follow) (typedArrows : Bool) (expression : Reading) :
    Option Reading :=
  let here := ahead follow expression.rest
  (selection? reader follow here).or
    (operation? reader follow typedArrows expression.assignable here)

/-- The expression with all operators behind it up to a place where it has to stop. -/
def completed (reader : Reader) (follow : Follow) (typedArrows : Bool) (stops : List Char → Bool) :
    Nat → Reading → Reading
  | 0, expression => expression
  | steps + 1, expression =>
    if stops expression.rest then expression
    else match further? reader follow typedArrows expression with
      | some longer => completed reader follow typedArrows stops steps longer
      | none => expression

/-- What follows an expression. -/
def expression? (reader : Reader) (follow : Follow) (typedArrows : Bool) (cs : List Char) :
    Option (List Char) := do
  let operand ← operand? reader follow typedArrows cs
  return (completed reader follow typedArrows (fun _ => false) reader.steps operand).rest

end BeanGen.Script
