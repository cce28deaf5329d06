import BeanGen.Script.Class

/-!
# Statements

What a statement is, and what it contributes: an import names a module, and a declaration of an
interface, a class, an enum or a type alias is kept, also one that is exported or only declared. All
other statements are passed over, and so is what they contain.
-/

namespace BeanGen.Script

open Source (EnumMember)

/-- A declaration of one of the four kinds. -/
inductive Declaration where
  | ofInterface (decl : Source.Interface)
  | ofClass (decl : Source.Class)
  | ofEnum (decl : Source.Enum)
  | ofAlias (decl : Source.Alias)
  deriving Repr

/-- What a statement contributes. -/
inductive Item where
  | imported (module : String)
  | declared (decl : Declaration)
  deriving Repr

/-- What a statement contributes, if anything, and what follows it. -/
abbrev Contribution := Option Item × List Char

/-- A statement that contributes nothing. -/
def nothing (rest : List Char) : Contribution := (none, rest)

/-! ## Declarations -/

/-- A base of an interface: a qualified name with its type arguments. -/
def interfaceBase? (reader : Reader) (cs : List Char) : Option Base := do
  let (_, rest) ← nextWord? cs
  let rest := skipSelected reader.steps rest
  return .whole (if atMark "<" (skip rest) then skipTypeArguments reader rest else rest)

/-- An interface behind its keyword. -/
def interface? (reader : Reader) (cs : List Char) : Option (Declaration × List Char) := do
  let (name, rest) ← nextWord? cs
  let rest ← optionalTypeParameters? reader rest
  let (bases, rest) ← clause? reader "extends" (interfaceBase? reader) rest
  let body ← reader.read .objectType (skip rest)
  return (.ofInterface ⟨String.ofList name, bases, body.members.getD []⟩, body.rest)

/-- A class behind its keyword. One without a name is no declaration; where a name has to stand, any
word is one. -/
def classDeclaration? (reader : Reader) (named : Bool) (cs : List Char) : Option (Declaration × List Char) := do
  let (name, rest) ← nextWord? cs
  if !named && atAnyKeyword ["extends", "implements"] (skip cs) then failure
  let (decl, rest) ← class? reader (String.ofList name) rest
  return (.ofClass decl, rest)

/-- The value of an enum constant as written, from `start` up to `rest`; a string or a template alone
loses its quotation marks. -/
def enumValue (reader : Reader) (start rest : List Char) : String :=
  let literal? := match start with
    | '\x60' :: inner => template? reader reader.steps inner
    | _ => string? start
  let text := textBefore rest start
  match literal? with
  | some behind => if behind.length = rest.length then plainName text else String.ofList (Text.trim text)
  | none => String.ofList (Text.trim text)

/-- A constant of an enum, and what follows it. Without a value, only names and strings are constants. -/
def enumMember? (reader : Reader) (cs : List Char) : Option (Option EnumMember × List Char) := do
  let start := skip cs
  let (name, rest) ← memberName? reader start
  match nextMark? "=" rest with
  | some value =>
    let behind ← reader.expression? .operand value
    let name := name.getD (textBefore rest start)
    return (some ⟨plainName name, some (enumValue reader (skip value) behind)⟩, behind)
  | none =>
    let isConstant := (word? start).isSome || (string? start).isSome
    return (if isConstant then name.map fun name => ⟨plainName name, none⟩ else none, rest)

/-- The constants up to the closing brace, and what follows it. -/
def enumMembers? (reader : Reader) :
    Nat → List EnumMember → List Char → Option (List EnumMember × List Char)
  | 0, _, _ => none
  | steps + 1, earlier, cs =>
    match nextMark? "\x7d" cs with
    | some rest => some (earlier.reverse, rest)
    | none => do
      let (member, rest) ← enumMember? reader cs
      let members := (whole? member rest cs).toList ++ earlier
      match nextMark? "," rest with
      | some rest => enumMembers? reader steps members rest
      | none => return (members.reverse, ← nextMark? "\x7d" rest)

/-- An enum behind its keyword. -/
def enum? (reader : Reader) (cs : List Char) : Option (Declaration × List Char) := do
  let (name, rest) ← nextWord? cs
  let (members, rest) ← enumMembers? reader reader.steps [] (← nextMark? "\x7b" rest)
  return (.ofEnum ⟨String.ofList name, members⟩, rest)

/-- The alias of a type, which is written as the text. The target is unknown if a gap is in it. -/
def aliasOf (name : String) (written : List Char) (type : Reading) : Source.Alias :=
  let target := String.ofList (Text.collapse written)
  if hasGap written then ⟨name, none, none⟩
  else ⟨name, if target = "" then none else some target, type.members⟩

/-- A type alias behind its keyword. -/
def alias? (reader : Reader) (cs : List Char) : Option (Declaration × List Char) := do
  let (name, rest) ← nextWord? cs
  let rest ← optionalTypeParameters? reader rest
  let start := skip (← nextMark? "=" rest)
  let type ← reader.read (.type .line) start
  let decl := aliasOf (String.ofList name) (textBefore type.rest start) type
  return (.ofAlias decl, ← terminated? .line type.rest)

/-- A declaration that contributes, from the keyword on. -/
def keptDeclaration? (reader : Reader) (cs : List Char) : Option (Declaration × List Char) := do
  let (word, rest) ← nextWord? cs
  let isWord (s : String) : Bool := word == s.toList
  if isWord "interface" then interface? reader rest
  else if isWord "class" then classDeclaration? reader false rest
  else if isWord "abstract" then classDeclaration? reader true (← nextKeyword? "class" rest)
  else if isWord "enum" then enum? reader rest
  else if isWord "const" then enum? reader (← nextKeyword? "enum" rest)
  else if isWord "type" then alias? reader rest
  else none

/-- What follows a variable with its type and its first value. -/
def oneVariable? (reader : Reader) (cs : List Char) : Option (Follow × List Char) := do
  let rest ← reader.rest? .pattern cs
  let (follow, rest) ← match ahead .line ((mark? "!" (ahead .line rest)).getD rest) with
    | ':' :: type => (reader.type? .line type).map (Follow.line, ·)
    | _ => some (Follow.line, rest)
  match ahead follow rest with
  | '=' :: value => (reader.expression? .expression value).map (Follow.expression, ·)
  | _ => some (follow, rest)

/-- What follows variables with commas between them, and the end of their statement. -/
def variables? (reader : Reader) : Nat → List Char → Option (List Char)
  | 0, _ => none
  | steps + 1, cs => do
    let (follow, rest) ← oneVariable? reader cs
    match ahead follow rest with
    | ',' :: rest => variables? reader steps rest
    | _ => terminated? follow rest

/-- What follows a function behind its keyword. It may have no body. -/
def functionDeclaration? (reader : Reader) (cs : List Char) : Option (List Char) := do
  let (_, rest) ← nextWord? (skipMark "*" cs)
  let rest ← signature? reader .head rest
  match ahead .head rest with
  | '\x7b' :: _ => block? reader rest
  | _ => terminated? .line rest

/-- What follows a namespace behind its keyword. It may have no body. -/
def namespace? (reader : Reader) (cs : List Char) : Option (List Char) := do
  let rest ← match string? (skip cs) with
    | some rest => some rest
    | none => (nextWord? cs).map fun (_, rest) => skipSelected reader.steps rest
  return (if atMark "\x7b" (skip rest) then block? reader rest else none).getD rest

/-- What follows the declaration of what a module exports under a name, with its type. -/
def typedModule? (reader : Reader) (cs : List Char) : Option (List Char) := do
  let (_, rest) ← nextWord? (← nextMark? "." (← nextKeyword? "module" cs))
  terminated? .line (← reader.type? .line (← nextMark? ":" rest))

/-- What follows an alias of something imported: a qualified name. -/
def importAlias? (reader : Reader) (cs : List Char) : Option (List Char) := do
  let (_, rest) ← nextWord? cs
  let (_, rest) ← nextWord? (← nextMark? "=" rest)
  terminated? .line (skipSelected reader.steps rest)

/-- A declaration without the words that export or declare it. -/
def declaration? (reader : Reader) (cs : List Char) : Option Contribution :=
  match keptDeclaration? reader cs with
  | some (decl, rest) => some (some (.declared decl), rest)
  | none => do
    let (word, rest) ← nextWord? cs
    let isWord (s : String) : Bool := word == s.toList
    if ["var", "let", "const"].any isWord then (variables? reader reader.steps rest).map nothing
    else if isWord "function" then (functionDeclaration? reader rest).map nothing
    else if isWord "async" then do
      (functionDeclaration? reader (← nextKeyword? "function" rest)).map nothing
    else if isWord "namespace" then (namespace? reader rest).map fun rest => nothing (skipMark ";" rest)
    else if isWord "module" then (namespace? reader rest).map nothing
    else if isWord "import" then (importAlias? reader rest).map nothing
    else none

/-! ## Imports and exports -/

/-- What follows the name of something imported or exported, with another name behind `as`. -/
def specifier? (cs : List Char) : Option (List Char) := do
  let named (cs : List Char) : Option (List Char) :=
    ((nextWord? cs).map (·.2)).or (string? (skip cs))
  let renamed (cs : List Char) : Option (List Char) := do
    let rest ← named cs
    return ((nextKeyword? "as" rest).bind named).getD rest
  let rest ← renamed cs
  if atAnyKeyword ["type", "typeof"] (skip cs) then return (renamed rest).getD rest else return rest

/-- What follows names in braces. -/
def specifiers? (reader : Reader) (cs : List Char) : Option (List Char) := do
  listedOrComma? specifier? "\x7d" reader.steps (← nextMark? "\x7b" cs)

/-- What follows `as` and a name behind a star. -/
def starName? (cs : List Char) : Option (List Char) := do
  let rest ← nextKeyword? "as" (← nextMark? "*" cs)
  ((nextWord? rest).map (·.2)).or (string? (skip rest))

/-- What follows the names that an import binds. -/
def importClause? (reader : Reader) (cs : List Char) : Option (List Char) :=
  match (starName? cs).or (specifiers? reader cs) with
  | some rest => some rest
  | none => do
    let (_, rest) ← nextWord? cs
    match nextMark? "," rest with
    | some more => (starName? more).or (specifiers? reader more)
    | none => return rest

/-- The module behind `from`, as a literal, and what follows it. -/
def source? (cs : List Char) : Option (String × List Char) := do
  let start := skip cs
  let rest ← string? start
  return (plainName (textBefore rest start), rest)

/-- The end of an import behind its module, which may be followed by attributes. -/
def importEnd? (reader : Reader) (cs : List Char) : Option (List Char) :=
  match anyKeyword? ["with", "assert"] (ahead .line cs) with
  | some rest => do terminated? .line (← object? reader (← nextMark? "\x7b" rest))
  | none => terminated? .line cs

/-- An import behind its keyword: the module it names, and what follows it. An import that is written
as an assignment names none. -/
def import? (reader : Reader) (cs : List Char) : Option Contribution := do
  let ofModule (cs : List Char) : Option Contribution := do
    let (module, rest) ← source? cs
    return (some (.imported module), rest)
  let named (cs : List Char) : Option Contribution := do
    let rest ← importClause? reader cs
    match nextKeyword? "from" rest with
    | some rest => ofModule rest
    | none => do
      let rest ← nextKeyword? "require" (← nextMark? "=" rest)
      let (_, rest) ← source? (← nextMark? "(" rest)
      return nothing (← nextMark? ")" rest)
  let marked := (anyKeyword? ["type", "typeof"] (skip cs)).bind fun rest =>
    (ofModule rest).or (named rest)
  let (item, rest) ← ((ofModule cs).or marked).or (named cs)
  return (item, ← importEnd? reader rest)

/-- A class without a name, or one that is a value: a named one counts as declared. -/
def valueClass? (reader : Reader) (cs : List Char) : Option Contribution := do
  let start := skipDecorators reader cs
  let rest ← nextKeyword? "class" start
  match classDeclaration? reader false rest with
  | some (decl, rest) => return (some (.declared decl), rest)
  | none => return nothing (← reader.rest? .classValue rest)

/-- What follows an expression and the end of its statement. -/
def endedExpression? (reader : Reader) (cs : List Char) : Option (List Char) := do
  terminated? .expression (← reader.expression? .expression cs)

/-- A declaration behind decorators, which may be exported and declared several times over. -/
def wrapped? (reader : Reader) : Nat → List Char → Option Contribution
  | 0, _ => none
  | steps + 1, cs =>
    let cs := skipDecorators reader cs
    match nextKeyword? "export" cs with
    | some rest => exported? steps rest
    | none =>
      match nextKeyword? "declare" cs with
      | some rest =>
        match nextKeyword? "global" rest with
        | some body => (block? reader body).map nothing
        | none => ((typedModule? reader rest).map nothing).or (wrapped? reader steps rest)
      | none => declaration? reader cs
where
  /-- What is exported. -/
  exported? (steps : Nat) (cs : List Char) : Option Contribution :=
    let value (cs : List Char) : Option Contribution :=
      ((valueClass? reader cs).bind fun (item, rest) =>
        (terminated? .expression rest).map (item, ·)).or ((endedExpression? reader cs).map nothing)
    let moduleEnd (cs : List Char) : Option (List Char) := do
      let (_, rest) ← source? (← nextKeyword? "from" cs)
      terminated? .line rest
    let list (cs : List Char) : Option (List Char) := do
      let rest ← specifiers? reader cs
      (moduleEnd rest).or (terminated? .line rest)
    match nextMark? "=" cs with
    | some rest => value rest
    | none =>
      match nextKeyword? "default" cs with
      | some rest => (wrapped? reader steps rest).or (value rest)
      | none =>
        match ((starName? cs).or (nextMark? "*" cs)).bind moduleEnd with
        | some rest => some (nothing rest)
        | none =>
          match (list cs).or ((nextKeyword? "type" cs).bind list) with
          | some rest => some (nothing rest)
          | none =>
            match (nextKeyword? "as" cs).bind (nextKeyword? "namespace" ·) with
            | some rest => (nextWord? rest).bind fun (_, rest) => (terminated? .line rest).map nothing
            | none => wrapped? reader steps cs

/-! ## Statements that only run -/

/-- What follows statements up to a place where none begins. -/
def skipStatements (reader : Reader) (cs : List Char) : List Char :=
  repeated (reader.rest? .statement) reader.steps cs

/-- What follows statements in braces. -/
def statements? (reader : Reader) (cs : List Char) : Option (List Char) := do
  let inner ← nextMark? "\x7b" cs
  nextMark? "\x7d" (skipStatements reader inner)

/-- What follows the cases of a switch. -/
def cases? (reader : Reader) (cs : List Char) : Option (List Char) := do
  let case? (cs : List Char) : Option (List Char) := do
    let rest ← match nextKeyword? "case" cs with
      | some value => reader.expressions? .operand value
      | none => nextKeyword? "default" cs
    return skipStatements reader (← nextMark? ":" rest)
  nextMark? "\x7d" (repeated case? reader.steps (← nextMark? "\x7b" cs))

/-- What follows the header of a loop in brackets. -/
def loopHeader? (reader : Reader) (cs : List Char) : Option (List Char) :=
  let optional (cs : List Char) : List Char := (reader.expressions? .operand cs).getD cs
  let each : Option (List Char) := do
    let bound := (anyKeyword? ["var", "let", "const"] (skip cs)).bind (reader.rest? .pattern)
    let initial (cs : List Char) : List Char :=
      ((nextMark? "=" cs).bind (reader.expression? .operand)).getD cs
    let left := (bound.map initial).or
      ((operand? reader .operand true cs).map fun first =>
        repeated (fun cs => (selection? reader .operand (ahead .operand cs)).map (·.rest))
          reader.steps first.rest)
    let rest ← anyKeyword? ["in", "of"] (skip (← left))
    nextMark? ")" (← reader.expressions? .operand rest)
  let counted : Option (List Char) := do
    let start ← match anyKeyword? ["var", "let", "const"] (skip cs) with
      | some rest => variables? reader reader.steps rest
      | none => nextMark? ";" (optional cs)
    let rest ← nextMark? ";" (optional start)
    nextMark? ")" (optional rest)
  each.or counted

/-- What follows a statement that begins with the keyword. -/
def keywordStatement? (reader : Reader) (word rest : List Char) : Option (List Char) :=
  let isWord (s : String) : Bool := word == s.toList
  let statement (cs : List Char) : Option (List Char) := reader.rest? .statement cs
  let labelled : Option (List Char) :=
    let here := ahead .line rest
    terminated? .line (((word? here).map (·.2)).getD rest)
  if isWord "if" then do
    let rest ← statement (← parenthesized? reader rest)
    match nextKeyword? "else" rest with
    | some rest => statement rest
    | none => return rest
  else if isWord "switch" then do cases? reader (← parenthesized? reader rest)
  else if isWord "for" then do
    statement (← loopHeader? reader (← nextMark? "(" (skipKeyword "await" rest)))
  else if ["while", "with"].any isWord then do statement (← parenthesized? reader rest)
  else if isWord "do" then do
    let rest ← parenthesized? reader (← nextKeyword? "while" (← statement rest))
    return (terminated? .expression rest).getD rest
  else if isWord "try" then do
    let rest ← block? reader rest
    let caught ← match nextKeyword? "catch" rest with
      | some rest =>
        match nextMark? "(" rest with
        | some parameter => do block? reader (← nextMark? ")" (← parameter? reader parameter))
        | none => block? reader rest
      | none => some rest
    match nextKeyword? "finally" caught with
    | some rest => block? reader rest
    | none => return caught
  else if ["break", "continue"].any isWord then labelled
  else if isWord "debugger" then terminated? .line rest
  else if isWord "return" then
    match ahead .line rest with
    | [] => some rest
    | here => (mark? ";" here).or (do terminated? .expression (← reader.expressions? .expression here))
  else if isWord "throw" then do terminated? .expression (← reader.expressions? .expression rest)
  else none

/-- Keywords that begin a statement of their own kind. -/
def statementKeywords : List String :=
  ["if", "switch", "for", "while", "with", "do", "try", "break", "continue", "debugger", "return",
   "throw"]

/-- Keywords of declarations that are never names where a statement begins. -/
def hardKeywords : List String :=
  ["interface", "enum", "abstract", "const", "var"]

/-- Keywords of declarations that are names, too: a line that holds nothing else is an expression. -/
def softKeywords : List String :=
  ["type", "namespace", "module", "declare", "export", "let", "async"]

/-- The text begins with a keyword that is a name there: a line of its own or an operand, and not the
keyword of what follows it. -/
def atNameOnly (cs : List Char) : Bool :=
  match word? cs with
  | none => false
  | some (word, rest) =>
    let here := ahead .expression rest
    let operators := ["satisfies", "in", "instanceof"] ++ if word = "export".toList then [] else ["as"]
    softKeywords.any (word == ·.toList) &&
      (here.isEmpty || asideLength here != 0 || atAnyKeyword operators here)

/-- The text goes on with an expression and begins no statement. -/
def onlyContinues (cs : List Char) : Bool :=
  atAnyKeyword ["as", "satisfies", "in", "instanceof"] cs ||
    atAnyMark [".", "?", ",", "*", "%", "&", "|", "^", "=", "!=", ">"] cs

/-- What follows an expression that is a statement. -/
def expressionStatement? (reader : Reader) (cs : List Char) : Option (List Char) := do
  terminated? .expression (← reader.expressions? .expression cs)

/-- A declaration, unless what follows can only go on with a value; then it is one. -/
def valueOrDeclaration? (reader : Reader) (cs : List Char) : Option Contribution :=
  let declared := wrapped? reader reader.steps cs
  let value := (expressionStatement? reader cs).map nothing
  if declared.any fun (_, rest) => onlyContinues (ahead .expression rest) then value.or declared
  else declared.or value

/-- A statement that begins with a word. -/
def wordStatement? (reader : Reader) (cs word rest : List Char) : Option Contribution :=
  let isWord (s : String) : Bool := word == s.toList
  let expression : Option Contribution := (expressionStatement? reader cs).map nothing
  if statementKeywords.any isWord then (keywordStatement? reader word rest).map nothing
  else if atMark ":" (ahead .expression rest) then
    (reader.rest? .statement (skipMark ":" rest)).map nothing
  else if isWord "import" then
    ((import? reader rest).or (declaration? reader cs)).or expression
  else if atNameOnly cs then expression
  else if hardKeywords.any isWord then wrapped? reader reader.steps cs
  else if ["class", "function", "async"].any isWord then valueOrDeclaration? reader cs
  else (wrapped? reader reader.steps cs).or expression

/-- A statement, from its first token on. -/
def statement? (reader : Reader) (cs : List Char) : Option Contribution :=
  let cs := skip cs
  match word? cs with
  | some (word, rest) => wordStatement? reader cs word rest
  | none =>
    match cs with
    | ';' :: rest => some (nothing rest)
    | '\x7b' :: _ => ((block? reader cs).or (expressionStatement? reader cs)).map nothing
    | '@' :: _ => valueOrDeclaration? reader cs
    | _ => (expressionStatement? reader cs).map nothing

end BeanGen.Script
