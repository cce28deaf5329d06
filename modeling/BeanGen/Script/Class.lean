import BeanGen.Script.Expression

/-!
# Classes

The bases of a class, what it implements, and its members. Of a base only the name is kept, as it is
written without type arguments. Properties with a name and a type are kept, as in object types; methods
with their bodies, index signatures, decorators and blocks are passed over.
-/

namespace BeanGen.Script

open Source (Property)

/-! ## Bases -/

/-- An entry of a clause that names bases, without its type arguments and white space. A text that
begins like type arguments is kept as a whole. -/
def baseName (text : List Char) : String :=
  String.ofList (Text.dropBlanks (if text.head? = some '<' then text else Text.before '<' text))

/-- Names with one more at the end, unless it is empty or there already. -/
def addName (names : List String) (name : String) : List String :=
  if name = "" || names.contains name then names else names ++ [name]

/-- An entry of a clause that names bases. -/
structure Base where
  /-- The text behind what names the base. -/
  nameEnd : List Char
  /-- The text behind the whole entry. -/
  rest : List Char

/-- An entry that names a base with all of its text. -/
def Base.whole (rest : List Char) : Base := ⟨rest, rest⟩

/-- The names in a clause of such entries, and what follows the clause. An aside in front of an entry
counts as one. -/
def bases? (base? : List Char → Option Base) :
    Nat → List String → List Char → Option (List String × List Char)
  | 0, _, _ => none
  | steps + 1, names, cs => do
    let start := skip cs
    let base ← base? start
    let entry := textBefore base.nameEnd start
    let texts := asidesFrom 0 cs ++ (if hasGap entry then [] else [entry])
    let names := texts.foldl (fun names text => addName names (baseName text)) names
    match nextMark? "," base.rest with
    | some rest => bases? base? steps names rest
    | none => return (names, base.rest)

/-- The names of the clause that begins with the keyword; none if there is no such clause. -/
def clause? (reader : Reader) (keyword : String) (base? : List Char → Option Base)
    (cs : List Char) : Option (List String × List Char) :=
  match nextKeyword? keyword cs with
  | some rest => bases? base? reader.steps [] rest
  | none => some ([], cs)

/-- Type arguments begin here, and nothing of a class but its body or its next clause follows them. -/
def atLastTypeArguments (reader : Reader) (cs : List Char) : Bool :=
  match typeArguments? reader cs with
  | some rest => atAnyMark ["\x7b", ","] (skip rest) || (nextKeyword? "implements" rest).isSome
  | none => false

/-- A base of a class: an expression, behind which type arguments may stand. -/
def classBase? (reader : Reader) (cs : List Char) : Option Base := do
  let operand ← operand? reader .operand true cs
  let stops := atLastTypeArguments reader
  let value := completed reader .operand true stops reader.steps operand
  return ⟨value.rest, skipTypeArguments reader value.rest⟩

/-- What a class implements: a type. The type `const` names nothing. -/
def implementedType? (reader : Reader) (cs : List Char) : Option Base := do
  let rest ← reader.type? .bracketed cs
  return ⟨if textBefore rest cs = "const".toList then cs else rest, rest⟩

/-! ## Members -/

/-- What follows the modifiers of a member of a class behind its visibility. The words `abstract` and
`accessor` are no names there, unless they stand behind `static` or `override`. -/
def skipClassModifiers? (cs : List Char) : Option (List Char) :=
  let only (word : String) (cs : List Char) : Option (List Char) := modifier? .bracketed [word] cs
  if atKeyword "abstract" (skip cs) then
    (only "abstract" cs).map (skipModifiers .line ["override", "readonly"])
  else if atKeyword "accessor" (skip cs) then only "accessor" cs
  else
    match modifier? .line ["static", "override"] cs with
    | some _ => some (skipModifiers .line ["static", "override", "readonly"] cs)
    | none =>
      match modifier? .line ["readonly"] cs with
      | some rest => if atKeyword "abstract" (skip rest) then only "abstract" rest else some rest
      | none => some cs

/-- A member of a class. -/
structure ClassMember where
  /-- What is kept of it. -/
  property : Option Property
  rest : List Char
  /-- What may follow it, if it has to be ended. -/
  follow : Option Follow

/-- A method behind its name: its signature with or without its body. -/
def method? (reader : Reader) (cs : List Char) : Option ClassMember := do
  let rest ← signature? reader .head cs
  if atMark "\x7b" (ahead .head rest) then return ⟨none, ← block? reader rest, none⟩
  else return ⟨none, rest, some .line⟩

/-- A property from its name on, with its type and its first value. -/
def field? (reader : Reader) (visibility : Option String) (name : Option (List Char))
    (rest : List Char) : Option ClassMember := do
  let here := ahead .line rest
  let optional := atMark "?" here
  let rest := ((mark? "?" here).or (mark? "!" here)).getD rest
  let typed ← match ahead .line rest with
    | ':' :: start => (reader.read (.type .line) start).map fun type => some (start, type)
    | _ => some none
  let behindType := typed.elim rest fun (_, type) => type.rest
  let (behind, follow) ← match ahead .line behindType with
    | '=' :: value => (reader.expression? .expression value).map (·, Follow.expression)
    | _ => some (behindType, Follow.line)
  let property := do
    let name ← name
    let (start, type) ← typed
    property? visibility name optional start type behind
  return ⟨property, behind, some follow⟩

/-- A member behind its decorators. -/
def classMember? (reader : Reader) (cs : List Char) : Option ClassMember :=
  let block := (nextKeyword? "static" cs).bind fun rest =>
    if atMark "\x7b" (ahead .line rest) then reader.rest? .block rest else none
  match block, indexSignature? reader cs with
  | some rest, _ => some ⟨none, rest, none⟩
  | none, some rest => some ⟨none, rest, some .line⟩
  | none, none => do
    let cs := skipModifiers .line ["declare"] cs
    let (visibility, cs) := takeVisibility cs
    let cs ← skipClassModifiers? (skipModifiers .line ["declare"] cs)
    let method := methodModifiers? .line cs
    let (name, rest) ← memberName? reader (method.getD cs)
    let signed := (mark? "?" (ahead .line rest)).getD rest
    if method.isSome || atAnyMark ["(", "<"] (ahead .line signed) then method? reader signed
    else field? reader visibility name rest

/-- What follows the end of a member: a separator, which may be left out at the end of the line. -/
def ClassMember.ended? (member : ClassMember) : Option (List Char) :=
  match member.follow with
  | none => some member.rest
  | some follow =>
    match ahead follow member.rest with
    | ',' :: rest => some rest
    | _ => terminated? follow member.rest

/-- The properties among the members up to the closing brace, and what follows it. `earlier` are the
properties that were read before, the last one first. -/
def classMembers? (reader : Reader) :
    Nat → List Property → List Char → Option (List Property × List Char)
  | 0, _, _ => none
  | steps + 1, earlier, cs =>
    match skip cs with
    | '\x7d' :: rest => some (earlier.reverse, rest)
    | ';' :: rest => classMembers? reader steps earlier rest
    | '@' :: _ => do classMembers? reader steps earlier (← decorator? reader cs)
    | _ => do
      let member ← classMember? reader cs
      let property := whole? member.property member.rest cs
      classMembers? reader steps (property.toList ++ earlier) (← member.ended?)

/-- A class of a name, behind the name, with what follows it. -/
def class? (reader : Reader) (name : String) (cs : List Char) :
    Option (Source.Class × List Char) := do
  let rest ← optionalTypeParameters? reader cs
  let (bases, rest) ← clause? reader "extends" (classBase? reader) rest
  let (implemented, rest) ← clause? reader "implements" (implementedType? reader) rest
  let (properties, rest) ← classMembers? reader reader.steps [] (← nextMark? "\x7b" rest)
  return (⟨name, bases.head?, implemented, properties⟩, rest)

/-- What follows a class that may have no name. -/
def classValue? (reader : Reader) (cs : List Char) : Option (List Char) :=
  let named :=
    match nextWord? cs with
    | some (_, rest) => if atAnyKeyword ["extends", "implements"] (skip cs) then cs else rest
    | none => cs
  (class? reader "" named).map (·.2)

end BeanGen.Script
