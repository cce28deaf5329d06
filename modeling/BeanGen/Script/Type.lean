import BeanGen.Script.Signature

/-!
# Types

A type is kept as text, so reading one only finds where it ends. It is an operand, or several with `|`
and `&` between them, or a conditional type. In an expression, an operator that no type follows goes on
with the expression; the type ends in front of it.
-/

namespace BeanGen.Script

/-- What follows the question mark of a conditional type or expression. It is no mark of something
optional, and no other operator begins with it. -/
def questionMark? (cs : List Char) : Option (List Char) :=
  match cs with
  | '?' :: rest =>
    match rest with
    | '?' :: _ => none
    | _ =>
      match rest.dropWhile isParting with
      | '.' :: c :: _ => if isDigit c then some rest else none
      | c :: _ => if ":),.".toList.contains c then none else some rest
      | [] => some rest
  | _ => none

/-- What follows a function type: parameters, an arrow and the result. -/
def functionType? (reader : Reader) (follow : Follow) (cs : List Char) : Option (List Char) := do
  let rest ← parameters? reader (← optionalTypeParameters? reader cs)
  result? reader follow (← nextMark? "=>" rest)

/-- What follows the type of something imported: calls of `import` and names selected in it. -/
def importType? (reader : Reader) (follow : Follow) (cs : List Char) : Option (List Char) := do
  let called (cs : List Char) : List Char := (arguments? reader cs).getD cs
  let select (cs : List Char) : Option (List Char) := do
    let here := ahead follow cs
    let rest ← (mark? "?." here).or (mark? "." here)
    let (_, rest) ← (nextWord? rest).or (privateName? (skip rest))
    return if atMark "(" (ahead follow rest) then called rest else rest
  let rest := if atMark "(" (skip cs) then called cs else cs
  let selected := repeated select reader.steps rest
  if selected.length = cs.length then none else some selected

/-- What follows a type query: the name of a value, and what is selected, looked up or called in it. -/
def typeQuery? (reader : Reader) (follow : Follow) (cs : List Char) : Option (List Char) := do
  let (word, rest) ← nextWord? cs
  let select (cs : List Char) : Option (List Char) :=
    let here := ahead follow cs
    match (mark? "?." here).or (mark? "." here) with
    | some rest =>
      match (nextWord? rest).or (privateName? (skip rest)) with
      | some (_, rest) => some rest
      | none => do nextMark? "]" (← reader.type? .bracketed (← nextMark? "[" rest))
    | none => if atMark "(" here then arguments? reader here else none
  let rest ←
    if word = "import".toList then (arguments? reader rest).or (typeArguments? reader rest)
    else some rest
  let rest := repeated select reader.steps rest
  return if atMark "<" (ahead follow rest) then skipTypeArguments reader rest else rest

/-- What follows the parts of a template literal type behind its opening mark. -/
def templateType? (reader : Reader) : Nat → List Char → Option (List Char)
  | 0, _ => none
  | steps + 1, cs =>
    match cs with
    | [] => none
    | '\x60' :: rest => some rest
    | '\\' :: _ => none
    | '$' :: '\x7b' :: rest => do
      let rest ← match nextKeyword? "infer" rest with
        | some _ => reader.type? .bracketed rest
        | none => reader.rest? (.primaryType .bracketed) rest
      templateType? reader steps (← nextMark? "\x7d" rest)
    | _ :: rest => templateType? reader steps rest

/-- What follows an element of a tuple type with its label. -/
def tupleElement? (reader : Reader) (cs : List Char) : Option (List Char) :=
  let labelled : Option (List Char) := do
    let (_, rest) ← nextWord? (skipMark "..." cs)
    nextMark? ":" (skipMark "?" rest)
  match labelled with
  | some type => reader.type? .bracketed type
  | none => (reader.type? .bracketed (skipMark "..." cs)).map (skipMark "?")

/-- An operand, and whether it can be indexed. -/
structure Operand where
  reading : Reading
  isPrimary : Bool

/-- An operand that can be indexed. -/
def Operand.primary (rest : List Char) : Operand := ⟨.ending rest, true⟩

/-- An operand that takes in all that follows it. -/
def Operand.open (rest : List Char) : Operand := ⟨.ending rest, false⟩

/-- A type that begins with a word. -/
def namedType? (reader : Reader) (follow : Follow) (word rest : List Char) : Option Operand :=
  let isWord (s : String) : Bool := word == s.toList
  if isWord "readonly" then (reader.type? follow rest).map .open
  else if isWord "keyof" then (reader.rest? (.primaryType follow) rest).map .primary
  else if isWord "typeof" then (typeQuery? reader follow rest).map .primary
  else if isWord "infer" then do
    let (_, rest) ← nextWord? rest
    match keyword? "extends" (ahead follow rest) with
    | some bound => (reader.type? follow bound).map .open
    | none => some (.open rest)
  else if isWord "unique" then (nextKeyword? "symbol" rest).map .primary
  else if isWord "new" then (functionType? reader follow rest).map .open
  else if isWord "abstract" then do
    (functionType? reader follow (← nextKeyword? "new" rest)).map .open
  else if isWord "import" then (importType? reader follow rest).map .open
  else if typeKeywords.any isWord then some (.primary rest)
  else
    let select (cs : List Char) : Option (List Char) := do
      let rest ← mark? "." (ahead follow cs)
      return (← nextWord? rest).2
    let rest := repeated select reader.steps rest
    some (.primary (if atMark "<" (ahead follow rest) then skipTypeArguments reader rest else rest))

/-- A type without operators around it, from its first token on. -/
def operandType? (reader : Reader) (follow : Follow) (cs : List Char) : Option Operand :=
  match word? cs with
  | some (word, rest) => namedType? reader follow word rest
  | none =>
    match (number? cs).or (string? cs) with
    | some rest => some (.primary rest)
    | none =>
      match cs with
      | '\x7b' :: _ => (reader.read .objectType cs).map (⟨·, true⟩)
      | '[' :: rest => (listedOrComma? (tupleElement? reader) "]" reader.steps rest).map .primary
      | '(' :: rest =>
        match functionType? reader follow cs with
        | some rest => some (.open rest)
        | none => do return .primary (← nextMark? ")" (← reader.type? .bracketed rest))
      | '<' :: _ => (functionType? reader follow cs).map .open
      | '-' :: rest => (number? (skip rest)).map .primary
      | '+' :: rest => (number? (skip rest)).map .primary
      | '\x60' :: rest => (templateType? reader reader.steps rest).map .primary
      | '*' :: rest => some (.primary rest)
      | '?' :: rest => (reader.rest? (.primaryType follow) rest).map .primary
      | _ => none

/-- What follows an index behind a type: empty for an array, or the type of a key. -/
def typeIndex? (reader : Reader) (follow : Follow) (cs : List Char) : Option (List Char) :=
  match ahead follow cs with
  | '[' :: rest =>
    (nextMark? "]" rest).or ((reader.type? .bracketed rest).bind (nextMark? "]"))
  | _ => none

/-- The operand with its indices. -/
def indexedType? (reader : Reader) (follow : Follow) (cs : List Char) : Option Operand := do
  let operand ← operandType? reader follow (skip cs)
  match if operand.isPrimary then typeIndex? reader follow operand.reading.rest else none with
  | some rest => return .primary (repeated (typeIndex? reader follow) reader.steps rest)
  | none => return operand

/-- What follows operators of a type that no operand stands in front of. -/
def skipLeadingOperators (reader : Reader) (cs : List Char) : List Char :=
  repeated (fun cs => (nextMark? "|" cs).or (nextMark? "&" cs)) reader.steps cs

/-- The text begins with an operator of a type, and not with the closing mark of an object type. -/
def atOperator (cs : List Char) : Bool :=
  (atMark "|" cs && !atMark "|\x7d" cs) || atMark "&" cs

/-- What follows an operator of a type with its other operands. Two bars are one operator where
operators of expressions may follow, and so are two ampersands. -/
def furtherType? (reader : Reader) (follow : Follow) (cs : List Char) : Option (List Char) :=
  let operand? (mark : Char) (rest : List Char) : Option (List Char) :=
    if follow.operators && (rest.head? == some mark || rest.head? == some '=') then none
    else (indexedType? reader follow (skipLeadingOperators reader rest)).map (·.reading.rest)
  match ahead follow cs with
  | '|' :: rest => operand? '|' rest
  | '&' :: rest => operand? '&' rest
  | here => do
    let bound ← reader.type? .bracketed (← keyword? "extends" here)
    let yes ← reader.type? .bracketed (← questionMark? (skip bound))
    reader.type? follow (← nextMark? ":" yes)

/-- A type. -/
def type? (reader : Reader) (follow : Follow) (cs : List Char) : Option Reading := do
  let leads := atAnyMark ["|", "&"] (skip cs)
  let cs := if leads then skipLeadingOperators reader cs else cs
  let operand ← indexedType? reader follow cs
  let reading := match furtherType? reader follow operand.reading.rest with
    | some rest => Reading.ending (repeated (furtherType? reader follow) reader.steps rest)
    | none => if leads then Reading.ending operand.reading.rest else operand.reading
  if !follow.operators && atOperator (ahead follow reading.rest) then none else return reading

/-- A type that can be indexed. -/
def primaryType? (reader : Reader) (follow : Follow) (cs : List Char) : Option Reading := do
  let operand ← indexedType? reader follow (skipLeadingOperators reader cs)
  if operand.isPrimary then return operand.reading else none

end BeanGen.Script
