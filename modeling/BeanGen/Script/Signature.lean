import BeanGen.Script.Reader

/-!
# Signatures

The heads of functions: type parameters, parameters, and what is said of the result. Decorators, which
may stand in front of parameters, are here, too.
-/

namespace BeanGen.Script

/-- The words that say from where a member can be used. -/
def visibilities : List String := ["public", "private", "protected"]

/-- Keywords that are types by themselves. -/
def typeKeywords : List String :=
  ["any", "number", "boolean", "string", "symbol", "void", "unknown", "never", "object", "true",
   "false", "null", "undefined", "this", "const"]

/-- Keywords that can begin an expression and are no names there. -/
def operandKeywords : List String :=
  ["function", "class", "typeof", "void", "delete", "await", "yield", "this", "super", "null",
   "true", "false", "import", "using"]

/-! ## Type arguments and parameters -/

/-- What follows type arguments. -/
def typeArguments? (reader : Reader) (cs : List Char) : Option (List Char) := do
  let rest ← nextMark? "<" cs
  listedSome? (reader.type? .bracketed) ">" reader.steps rest

/-- What follows type arguments, or the whole text if it begins with none. -/
def skipTypeArguments (reader : Reader) (cs : List Char) : List Char :=
  (typeArguments? reader cs).getD cs

/-- What follows a type parameter with its bound and its default. -/
def typeParameter? (reader : Reader) (cs : List Char) : Option (List Char) := do
  let (_, rest) ← nextWord? (skipKeyword "const" cs)
  let rest ← match (nextKeyword? "extends" rest).or (nextMark? ":" rest) with
    | some bound => reader.type? .bracketed bound
    | none => some rest
  match nextMark? "=" rest with
  | some type => reader.type? .bracketed type
  | none => some rest

/-- What follows type parameters. -/
def typeParameters? (reader : Reader) (cs : List Char) : Option (List Char) := do
  let rest ← nextMark? "<" cs
  listedSome? (typeParameter? reader) ">" reader.steps rest

/-- What follows type parameters, or the whole text if it begins with none. Those that are begun have
to be complete. -/
def optionalTypeParameters? (reader : Reader) (cs : List Char) : Option (List Char) :=
  if atMark "<" (skip cs) then typeParameters? reader cs else some cs

/-! ## Decorators -/

/-- What follows further names behind dots. -/
def skipSelected (steps : Nat) (cs : List Char) : List Char :=
  repeated (fun cs => do
    let rest ← nextMark? "." cs
    return (← nextWord? rest).2) steps cs

/-- What follows arguments. -/
def arguments? (reader : Reader) (cs : List Char) : Option (List Char) := do
  let rest ← nextMark? "(" cs
  let argument (cs : List Char) : Option (List Char) :=
    reader.expression? .operand ((nextMark? "..." cs).getD cs)
  listed? argument true ")" reader.steps rest

/-- What follows the name of a decorator with its arguments. -/
def decoratorName? (reader : Reader) (cs : List Char) : Option (List Char) := do
  let rest := skipSelected reader.steps (← nextWord? cs).2
  return (arguments? reader (skipTypeArguments reader rest)).getD rest

/-- What follows a decorator. -/
def decorator? (reader : Reader) (cs : List Char) : Option (List Char) := do
  let rest ← nextMark? "@" cs
  match nextMark? "(" rest with
  | some inner => nextMark? ")" (← decoratorName? reader inner)
  | none => decoratorName? reader rest

/-- What follows decorators. -/
def skipDecorators (reader : Reader) (cs : List Char) : List Char :=
  repeated (decorator? reader) reader.steps cs

/-! ## Parameters -/

/-- A name, a pattern or a further modifier can begin here. -/
def beginsParameter (cs : List Char) : Bool :=
  nameLength cs != 0 || atAnyMark ["\x7b", "[", "..."] cs

/-- What follows a modifier of a parameter, or the whole text if it begins with none. -/
def skipParameterModifier (words : List String) (cs : List Char) : List Char :=
  match anyKeyword? words (skip cs) with
  | some rest => if beginsParameter (skip rest) then rest else cs
  | none => cs

/-- What follows a parameter: a name or a pattern, with a type or a default. -/
def parameter? (reader : Reader) (cs : List Char) : Option (List Char) := do
  let cs := skipParameterModifier visibilities (skipDecorators reader cs)
  let cs := skipParameterModifier ["readonly"] (skipParameterModifier ["override"] cs)
  let rest ← match nextKeyword? "this" cs with
    | some rest => some rest
    | none => reader.rest? .pattern (skipMark "..." cs)
  let rest := skipMark "?" rest
  let rest ← match nextMark? ":" rest with
    | some type => reader.type? .bracketed type
    | none => some rest
  match nextMark? "=" rest with
  | some value => reader.expression? .operand value
  | none => some rest

/-- What follows parameters in brackets. -/
def parameters? (reader : Reader) (cs : List Char) : Option (List Char) := do
  let rest ← nextMark? "(" cs
  listed? (parameter? reader) false ")" reader.steps rest

/-! ## Results -/

/-- What follows a statement on the type of an argument: its name, `is` and the type. `named` says what
may follow the name alone. -/
def predicate? (reader : Reader) (named follow : Follow) (cs : List Char) : Option (List Char) := do
  let name ← ((nextKeyword? "unique" cs).bind (nextKeyword? "symbol")).or ((nextWord? cs).map (·.2))
  reader.type? follow (← keyword? "is" (ahead named name))

/-- What follows the type of a result, or what a function says of the types of its arguments. -/
def result? (reader : Reader) (follow : Follow) (cs : List Char) : Option (List Char) :=
  match nextKeyword? "asserts" cs with
  | some rest =>
    let isType := atAnyKeyword typeKeywords (skip rest) && !atKeyword "this" (skip rest)
    let alone := if isType then none else (nextWord? rest).map (·.2)
    (predicate? reader (if isType then .bracketed else follow) follow rest).or alone
  | none => (predicate? reader follow follow cs).or (reader.type? follow cs)

/-- What follows parameters and what is said of the result. -/
def signature? (reader : Reader) (follow : Follow) (cs : List Char) : Option (List Char) := do
  let rest ← parameters? reader (← optionalTypeParameters? reader cs)
  match ahead follow rest with
  | ':' :: type => result? reader follow type
  | _ => some rest

end BeanGen.Script
