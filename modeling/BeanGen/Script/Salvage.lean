import BeanGen.Script.Mending
import BeanGen.Script.Recovery
import BeanGen.Script.Statement

/-!
# Declarations that are broken

A declaration that breaks the grammar is read leniently: a member that breaks it is left out and the
others stay, a body that is never closed ends where the script does or the next declaration begins, and
a target that breaks the grammar is unknown. A declaration without a name is none.
-/

namespace BeanGen.Script

open Source (Property EnumMember)

/-- A body that is read leniently. -/
structure LooseBody (α : Type) where
  items : List α
  /-- The text behind it. -/
  rest : List Char
  /-- The closing brace is there, and not the end of the script instead. -/
  closed : Bool := true
  /-- The script does not end inside something broken. -/
  complete : Bool := true

/-- Items up to the closing brace, read one by one. -/
def readBody {α : Type} (rules : MendingRules (Option α)) :
    Nat → Bool → Bool → List Char → LooseBody α
  | 0, _, _, cs => ⟨[], cs, false, false⟩
  | steps + 1, first, complete, cs =>
    if (skip cs).isEmpty then ⟨[], cs, false, complete⟩
    else match nextMark? "\x7d" cs with
      | some rest => { items := [], rest }
      | none =>
        match (nextMark? ";" cs).or (nextMark? "," cs) with
        | some rest => readBody rules steps false complete rest
        | none =>
          let (item, rest, complete) :=
            match rules.read? cs with
            | some (item, rest) => (item, rest, true)
            | none =>
              let (item, rest) := (rules.mended? first read? cs).getD
                (none, skipBroken steps true false cs)
              (item, rest, false)
          let body := readBody rules steps false complete rest
          { body with items := item.toList ++ body.items }
where
  /-- An item, or none in front of the closing brace. -/
  read? (cs : List Char) : Option (Option α × List Char) :=
    if atMark "\x7d" (skip cs) then some (none, skip cs) else rules.read? cs

/-- A member of an object type with its end. -/
def looseMember? (reader : Reader) (cs : List Char) : Option (Option Property × List Char) := do
  let (property, rest) ← member? reader cs
  return (whole? property rest cs, ← separated? rest)

/-- A member of a class with its end, behind its decorators. -/
def looseClassMember? (reader : Reader) (cs : List Char) :
    Option (Option Property × List Char) := do
  let member ← classMember? reader (skipDecorators reader cs)
  return (whole? member.property member.rest cs, ← member.ended?)

/-- A constant of an enum with its end. -/
def looseEnumMember? (reader : Reader) (cs : List Char) :
    Option (Option EnumMember × List Char) := do
  let (member, rest) ← enumMember? reader cs
  let behind ← (nextMark? "," rest).or (if atMark "\x7d" (skip rest) then some (skip rest) else none)
  return (whole? member rest cs, behind)

/-- A statement can follow a closing brace that is filled in, and an item a separator. -/
def canFollow {α : Type} (reader : Reader) (read? : List Char → Option α) (filler : String)
    (cs : List Char) : Bool :=
  if filler == "\x7d" then (skip cs).isEmpty || (statement? reader cs).isSome
  else if filler == ";" then (read? cs).isSome
  else true

/-- The members of an object type. -/
def objectRules (reader : Reader) : MendingRules (Option Property) where
  read? := looseMember? reader
  ending := ";"
  fillers := ["\x7d", ")", "]", ">"]
  canFollow := canFollow reader (looseMember? reader)
  reach := 9
  enders := [";", ",", "\x7d"]
  firstEnders := [";", ",", "\x7d"]
  namePreferred := false

/-- The members of a class. -/
def classRules (reader : Reader) : MendingRules (Option Property) where
  read? := looseClassMember? reader
  ending := ";"
  fillers := ["\x7d", ")", "]", ">", ";"]
  canFollow := canFollow reader (looseClassMember? reader)
  reach := 9
  enders := [";", ",", "\x7d", ":", "?", "=", "!"]
  namePreferred := false

/-- The constants of an enum. -/
def enumRules (reader : Reader) : MendingRules (Option EnumMember) where
  read? := looseEnumMember? reader
  ending := ","
  fillers := ["\x7d", ")", "]"]
  canFollow := canFollow reader (looseEnumMember? reader)
  reach := 9
  enders := [",", "\x7d"]
  namePreferred := false

/-- The declaration with a body; none if the script ends inside something broken. -/
def LooseBody.declare {α : Type} (body : LooseBody α) (decl : List α → Declaration) :
    Contribution :=
  if body.complete then (some (.declared (decl body.items)), body.rest) else nothing []

/-- An interface behind its keyword. -/
def looseInterface? (reader : Reader) (cs : List Char) : Option Contribution := do
  let (name, rest) ← nextWord? cs
  let rest ← optionalTypeParameters? reader rest
  let (bases, rest) ← clause? reader "extends" (interfaceBase? reader) rest
  let body := readBody (objectRules reader) reader.steps true true (← nextMark? "\x7b" rest)
  return body.declare fun properties => .ofInterface ⟨String.ofList name, bases, properties⟩

/-- A class behind its keyword. One that can be a value is no declaration if the script ends directly
behind its members. -/
def looseClass? (reader : Reader) (named isValue : Bool) (cs : List Char) : Option Contribution := do
  let (name, rest) ← nextWord? cs
  if !named && atAnyKeyword ["extends", "implements"] (skip cs) then failure
  let rest ← optionalTypeParameters? reader rest
  let (bases, rest) ← clause? reader "extends" (classBase? reader) rest
  let (implemented, rest) ← clause? reader "implements" (implementedType? reader) rest
  let body := readBody (classRules reader) reader.steps true true (← nextMark? "\x7b" rest)
  if isValue && !body.closed && body.rest.isEmpty then return nothing []
  else return body.declare fun properties =>
    .ofClass ⟨String.ofList name, bases.head?, implemented, properties⟩

/-- An enum behind its keyword. -/
def looseEnum? (reader : Reader) (cs : List Char) : Option Contribution := do
  let (name, rest) ← nextWord? cs
  let body := readBody (enumRules reader) reader.steps true true (← nextMark? "\x7b" rest)
  return body.declare fun members => .ofEnum ⟨String.ofList name, members⟩

/-- A type alias behind its keyword whose type cannot be read: its target is unknown. -/
def lostAlias? (reader : Reader) (templateOnly : Bool) (cs : List Char) : Option Contribution := do
  let (name, rest) ← nextWord? cs
  let start ← nextMark? "=" (← optionalTypeParameters? reader rest)
  if templateOnly && !atMark "\x60" (skip start) then failure
  return (some (.declared (.ofAlias ⟨String.ofList name, none, none⟩)), finish reader.steps start)

/-- A declaration from its keyword on. -/
def looseDeclaration? (reader : Reader) (isValue : Bool) (cs : List Char) :
    Option Contribution := do
  let (word, rest) ← nextWord? cs
  let isWord (s : String) : Bool := word == s.toList
  if isWord "interface" then looseInterface? reader rest
  else if isWord "class" then looseClass? reader false isValue rest
  else if isWord "abstract" then looseClass? reader true false (← nextKeyword? "class" rest)
  else if isWord "enum" then looseEnum? reader rest
  else if isWord "const" then looseEnum? reader (← nextKeyword? "enum" rest)
  else if isWord "type" then lostAlias? reader true rest
  else none

/-- What follows the decorators that the text begins with. An at sign in front of a declaration begins
none. -/
def skipLooseDecorators (reader : Reader) (cs : List Char) : List Char :=
  repeated (fun cs =>
    if (nextMark? "@" cs).any (startsDeclaration reader.steps) then none
    else decorator? reader cs) reader.steps cs

/-- The declaration of a statement, without the words that export or declare it. -/
def looseDeclared? (reader : Reader) (cs : List Char) : Option Contribution :=
  let cs := skipLooseDecorators reader cs
  if atNameOnly (skip cs) then none
  else match nextKeyword? "export" cs with
  | some rest =>
    match (nextMark? "=" rest).filter fun rest => (nextKeyword? "class" rest).isSome with
    | some rest => looseDeclaration? reader false rest
    | none =>
      let rest := skipKeyword "declare" (skipKeyword "default" rest)
      looseDeclaration? reader false (skipLooseDecorators reader rest)
  | none =>
    match nextKeyword? "declare" cs with
    | some rest => looseDeclaration? reader false rest
    | none => looseDeclaration? reader true cs

/-- A statement that is read leniently. -/
def looseStatement? (reader : Reader) (cs : List Char) : Option Contribution :=
  (statement? reader cs).or (looseDeclared? reader cs)

/-- Statements. -/
def statementRules (reader : Reader) : MendingRules (Option Item) where
  read? := looseStatement? reader
  ending := ""
  fillers := ["\x7d", ")", "]", ">", ";"]
  canFollow := canFollow reader (statement? reader)
  reach := 3
  enders := [";", ",", "=", "\x7b"]
  firstEnders := [";", ",", "=", "\x7b"]
  namePreferred := true

/-- A statement that breaks the grammar: what it contributes nevertheless, and what follows it. -/
def salvaged (reader : Reader) (cs : List Char) : Contribution :=
  match (looseStatement? reader cs).or
    ((statementRules reader).mended? true (looseStatement? reader) cs) with
  | some contribution => contribution
  | none =>
    let alias? := do
      let rest := skipKeyword "declare" (skipKeyword "export" cs)
      let (item, rest) ← lostAlias? reader false (← nextKeyword? "type" rest)
      if (skip rest).isEmpty then none else some (item, rest)
    match alias?, token? false cs with
    | some contribution, _ => contribution
    | none, none => nothing []
    | none, some token => nothing (if isMisplaced token then token.rest else skipStatement reader.steps cs)

end BeanGen.Script
