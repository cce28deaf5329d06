import BeanGen.Proofs.Script.Written

/-!
# Declarations with comments

Written declarations with room between any two of their tokens: interfaces, classes and enums with one
member a line, and aliases of types. A `Gap` holds spaces and block comments. `printed` gives the text with
its comments, and `plain` takes the comments out of it. What a reader should find is `source`, which is what
is printed up to the places where a comment is taken for something else.
-/

namespace BeanGen.Spaced

open Written (Name Letters Pragma predefinedTypes)

/-! ## Gaps -/

/-- A block comment between its marks. It cannot be closed from within, and noncharacters are in no text. -/
structure Comment where
  chars : List Char
  closed : ¬['*', '/'] <:+: chars
  valid : Script.hasGap chars = false

/-- The comment as text. -/
def Comment.text (comment : Comment) : List Char :=
  '/' :: '*' :: (comment.chars ++ ['*', '/'])

/-- What can stand between two tokens. -/
inductive Piece where
  | space
  | comment (comment : Comment)

/-- The piece as text. -/
def Piece.text : Piece → List Char
  | .space => [' ']
  | .comment block => block.text

/-- The piece is no comment. -/
def Piece.isSpace : Piece → Bool
  | .space => true
  | .comment _ => false

/-- What stands between two tokens. -/
abbrev Gap := List Piece

namespace Gap

/-- The gap as text. -/
def text (gap : Gap) : List Char :=
  gap.flatMap Piece.text

/-- The gap without comments. -/
def plain (gap : Gap) : Gap :=
  gap.filter Piece.isSpace

/-- The first comment in the gap. -/
def comment? : Gap → Option (List Char)
  | [] => none
  | .space :: gap => comment? gap
  | .comment block :: _ => some block.text

end Gap

/-- A gap that keeps two words apart, also without its comments. -/
structure Parting where
  gap : Gap
  parts : Piece.space ∈ gap

/-- The gap as text. -/
def Parting.text (parting : Parting) : List Char :=
  parting.gap.text

/-- The gap without comments. -/
def Parting.plain (parting : Parting) : Parting where
  gap := parting.gap.plain
  parts := List.mem_filter.2 ⟨parting.parts, rfl⟩

/-! ## Types -/

mutual

/-- A type with gaps between its tokens. -/
inductive TypeForm where
  | named (name : Name)
  | predefined (word : String) (h : word ∈ predefinedTypes)
  | literal (letters : Letters)
  | array (item : TypeForm) (before inside : Gap)
  | applied (name : Name) (before inside : Gap) (args : TypeForms)
  | union (left : TypeForm) (before behind : Gap) (right : TypeForm)

/-- One type or more, each with the gap behind it. -/
inductive TypeForms where
  | one (type : TypeForm) (behind : Gap)
  | more (type : TypeForm) (behind before : Gap) (types : TypeForms)

end

mutual

/-- The type as text. -/
def TypeForm.printed : TypeForm → List Char
  | .named name => name.chars
  | .predefined word _ => word.toList
  | .literal letters => letters.quoted
  | .array item before inside => item.printed ++ (before.text ++ '[' :: (inside.text ++ [']']))
  | .applied name before inside args => name.chars ++ (before.text ++ '<' :: (inside.text ++ (args.printed ++ ['>'])))
  | .union left before behind right => left.printed ++ (before.text ++ '|' :: (behind.text ++ right.printed))

/-- The types with commas between them. -/
def TypeForms.printed : TypeForms → List Char
  | .one type behind => type.printed ++ behind.text
  | .more type behind before types => type.printed ++ (behind.text ++ ',' :: (before.text ++ types.printed))

end

mutual

/-- The type without comments. -/
def TypeForm.plain : TypeForm → TypeForm
  | .named name => .named name
  | .predefined word h => .predefined word h
  | .literal letters => .literal letters
  | .array item before inside => .array item.plain before.plain inside.plain
  | .applied name before inside args => .applied name before.plain inside.plain args.plain
  | .union left before behind right => .union left.plain before.plain behind.plain right.plain

/-- The types without comments. -/
def TypeForms.plain : TypeForms → TypeForms
  | .one type behind => .one type.plain behind.plain
  | .more type behind before types => .more type.plain behind.plain before.plain types.plain

end

/-! ## Members -/

/-- The colon, behind a question mark and a gap if the property may be missing. -/
def colonText : Option Gap → List Char
  | some gap => '?' :: (gap.text ++ [':'])
  | none => [':']

/-- The pragma that ends a line, if there is one. -/
def pragmaText : Option Pragma → List Char
  | some pragma => pragma.printed ++ ['\n']
  | none => ['\n']

/-- A property on its line. -/
structure Property where
  indent : Gap
  name : Name
  /-- What stands behind the name. -/
  behindName : Gap := []
  /-- What stands behind the question mark, if there is one. -/
  optional : Option Gap := none
  /-- What stands in front of the type. -/
  front : Gap
  type : TypeForm
  /-- What stands behind the type. -/
  back : Gap := []
  /-- What stands behind the semicolon. -/
  behind : Gap := []
  pragma : Option Pragma := none

namespace Property

/-- The rest of the line behind the semicolon. -/
def lineEnd (property : Property) : List Char :=
  property.behind.text ++ pragmaText property.pragma

/-- The property on its line. -/
def printed (property : Property) : List Char :=
  property.indent.text ++ (property.name.chars ++ (property.behindName.text ++ (colonText property.optional ++
    (property.front.text ++ (property.type.printed ++ (property.back.text ++ ';' :: property.lineEnd))))))

/-- The property without comments. -/
def plain (property : Property) : Property where
  indent := property.indent.plain
  name := property.name
  behindName := property.behindName.plain
  optional := property.optional.map Gap.plain
  front := property.front.plain
  type := property.type.plain
  back := property.back.plain
  behind := property.behind.plain
  pragma := property.pragma

/-- What is taken for the type: a comment in front of it stands in its place. -/
def recorded (property : Property) : List Char :=
  Text.trim (property.front.comment?.getD property.type.printed)

/-- What is taken for the comment of the property: the first one behind its type. -/
def note? (property : Property) : Option (List Char) :=
  (Gap.comment? (property.back ++ property.behind)).or (property.pragma.map Pragma.printed)

/-- The property as it is found in the script. One that mentions an import is not kept. -/
def source? (property : Property) : Option Source.Property :=
  if Text.hasInfix "import(".toList property.recorded then none
  else some
    { name := property.name.text
      type := String.ofList property.recorded
      optional := property.optional.isSome
      comment := property.note?.map String.ofList
      typeHint := (property.note?.map String.ofList).bind Script.typeHint? }

end Property

/-- The braces of a declaration and what stands around the lines in them. -/
structure Braces where
  /-- What stands in front of the opening brace. -/
  before : Gap
  /-- The rest of the line behind it. -/
  first : Gap := []
  /-- What stands in front of the closing brace. -/
  close : Gap := []
  /-- The rest of the line behind it. -/
  tail : Gap := []

namespace Braces

/-- The braces with the lines in them. -/
def printed (braces : Braces) (lines : List Char) : List Char :=
  braces.before.text ++ '\x7b' :: (braces.first.text ++ '\n' :: (lines ++ (braces.close.text ++
    '\x7d' :: (braces.tail.text ++ ['\n']))))

/-- The braces without comments around them. -/
def plain (braces : Braces) : Braces where
  before := braces.before.plain
  first := braces.first.plain
  close := braces.close.plain
  tail := braces.tail.plain

end Braces

/-! ## Declarations -/

/-- Names behind a keyword. -/
structure Clause where
  /-- What stands in front of the keyword. -/
  before : Parting
  /-- What stands behind it. -/
  behind : Parting
  first : Name
  /-- The other names, each with what stands around the comma in front of it. -/
  more : List (Gap × Gap × Name) := []
  distinct : (first :: more.map fun entry => entry.2.2).Nodup

namespace Clause

/-- The names. -/
def names (clause : Clause) : List Name :=
  clause.first :: clause.more.map fun entry => entry.2.2

/-- The names with commas between them. -/
def listing (name : Name) : List (Gap × Gap × Name) → List Char
  | [] => name.chars
  | (before, behind, next) :: more => name.chars ++ (before.text ++ ',' :: (behind.text ++ listing next more))

/-- The clause as text. -/
def printed (keyword : String) (clause : Clause) : List Char :=
  clause.before.text ++ (keyword.toList ++ (clause.behind.text ++ listing clause.first clause.more))

/-- The clause without comments. -/
def plain (clause : Clause) : Clause where
  before := clause.before.plain
  behind := clause.behind.plain
  first := clause.first
  more := clause.more.map fun entry => (entry.1.plain, entry.2.1.plain, entry.2.2)
  distinct := by simpa [Function.comp_def] using clause.distinct

end Clause

/-- A clause that may be missing, as text. -/
def clauseText (keyword : String) (clause : Option Clause) : List Char :=
  (clause.map (Clause.printed keyword)).getD []

/-- The names in a clause that may be missing. -/
def clauseNames (clause : Option Clause) : List String :=
  (clause.map fun clause => clause.names.map Name.text).getD []

/-- An interface. -/
structure Interface where
  name : Name
  bases : Option Clause := none
  braces : Braces
  properties : List Property := []

/-- The interface behind its keyword. -/
def Interface.printed (decl : Interface) : List Char :=
  decl.name.chars ++ (clauseText "extends" decl.bases ++ decl.braces.printed (decl.properties.flatMap Property.printed))

/-- The interface without comments. -/
def Interface.plain (decl : Interface) : Interface where
  name := decl.name
  bases := decl.bases.map Clause.plain
  braces := decl.braces.plain
  properties := decl.properties.map Property.plain

/-- The interface as it is found in the script. -/
def Interface.source (decl : Interface) : Source.Interface where
  name := decl.name.text
  bases := clauseNames decl.bases
  properties := decl.properties.filterMap Property.source?

/-- The base of a class. -/
structure Base where
  /-- What stands in front of the keyword. -/
  before : Parting
  /-- What stands behind it. -/
  behind : Parting
  name : Name

/-- The base with its keyword. -/
def Base.printed (base : Base) : List Char :=
  base.before.text ++ ("extends".toList ++ (base.behind.text ++ base.name.chars))

/-- The base without comments around it. -/
def Base.plain (base : Base) : Base where
  before := base.before.plain
  behind := base.behind.plain
  name := base.name

/-- A class. -/
structure Class where
  name : Name
  base : Option Base := none
  implements : Option Clause := none
  braces : Braces
  properties : List Property := []

/-- The class behind its keyword. -/
def Class.printed (decl : Class) : List Char :=
  decl.name.chars ++ ((decl.base.map Base.printed).getD [] ++ (clauseText "implements" decl.implements ++
    decl.braces.printed (decl.properties.flatMap Property.printed)))

/-- The class without comments. -/
def Class.plain (decl : Class) : Class where
  name := decl.name
  base := decl.base.map Base.plain
  implements := decl.implements.map Clause.plain
  braces := decl.braces.plain
  properties := decl.properties.map Property.plain

/-- The class as it is found in the script. -/
def Class.source (decl : Class) : Source.Class where
  name := decl.name.text
  base := decl.base.map fun base => base.name.text
  implements := clauseNames decl.implements
  properties := decl.properties.filterMap Property.source?

/-- The value of a constant. -/
inductive Value where
  | natural (n : Nat)
  | negative (sign : Gap) (n : Nat)
  | text (letters : Letters)

namespace Value

/-- The value as text. -/
def printed : Value → List Char
  | .natural n => Nat.toDigits 10 n
  | .negative sign n => '-' :: (sign.text ++ Nat.toDigits 10 n)
  | .text letters => letters.quoted

/-- The value without comments. -/
def plain : Value → Value
  | .natural n => .natural n
  | .negative sign n => .negative sign.plain n
  | .text letters => .text letters

/-- The value as it is found in the script: as written, but a string has no quotation marks. -/
def source : Value → String
  | .natural n => String.ofList (Value.natural n).printed
  | .negative sign n => String.ofList (Value.negative sign n).printed
  | .text letters => letters.text

end Value

/-- A constant on its line. -/
structure Constant where
  indent : Gap
  name : Name
  /-- The value, with what stands in front of the equals sign and behind it. -/
  value : Option (Gap × Gap × Value) := none
  /-- What stands in front of the comma. -/
  back : Gap := []
  /-- What stands behind the comma. -/
  behind : Gap := []

namespace Constant

/-- The value behind the name. -/
def valueText (constant : Constant) : List Char :=
  match constant.value with
  | some (before, behind, value) => before.text ++ '=' :: (behind.text ++ value.printed)
  | none => []

/-- The constant on its line. -/
def printed (constant : Constant) : List Char :=
  constant.indent.text ++ (constant.name.chars ++ (constant.valueText ++ (constant.back.text ++
    ',' :: (constant.behind.text ++ ['\n']))))

/-- The constant without comments. -/
def plain (constant : Constant) : Constant where
  indent := constant.indent.plain
  name := constant.name
  value := constant.value.map fun value => (value.1.plain, value.2.1.plain, value.2.2.plain)
  back := constant.back.plain
  behind := constant.behind.plain

/-- The constant as it is found in the script. -/
def source (constant : Constant) : Source.EnumMember where
  name := constant.name.text
  value := constant.value.map fun value => value.2.2.source

end Constant

/-- An enum. -/
structure Enum where
  name : Name
  braces : Braces
  constants : List Constant := []

/-- The enum behind its keyword. -/
def Enum.printed (decl : Enum) : List Char :=
  decl.name.chars ++ decl.braces.printed (decl.constants.flatMap Constant.printed)

/-- The enum without comments. -/
def Enum.plain (decl : Enum) : Enum where
  name := decl.name
  braces := decl.braces.plain
  constants := decl.constants.map Constant.plain

/-- The enum as it is found in the script. -/
def Enum.source (decl : Enum) : Source.Enum where
  name := decl.name.text
  members := decl.constants.map Constant.source

/-- An alias of a type. -/
structure Alias where
  name : Name
  /-- What stands in front of the equals sign. -/
  before : Gap
  /-- What stands in front of the type. -/
  front : Gap
  target : TypeForm
  /-- What stands behind the type. -/
  back : Gap := []
  /-- The rest of the line behind the semicolon. -/
  tail : Gap := []

namespace Alias

/-- The alias behind its keyword. -/
def printed (decl : Alias) : List Char :=
  decl.name.chars ++ (decl.before.text ++ '=' :: (decl.front.text ++ (decl.target.printed ++ (decl.back.text ++
    ';' :: (decl.tail.text ++ ['\n'])))))

/-- The alias without comments. -/
def plain (decl : Alias) : Alias where
  name := decl.name
  before := decl.before.plain
  front := decl.front.plain
  target := decl.target.plain
  back := decl.back.plain
  tail := decl.tail.plain

/-- The alias as it is found in the script. -/
def source (decl : Alias) : Source.Alias where
  name := decl.name.text
  target := some (String.ofList (Text.collapse decl.target.printed))

end Alias

/-- A declaration of one of the four kinds. -/
inductive Declaration where
  | ofInterface (decl : Interface)
  | ofClass (decl : Class)
  | ofEnum (decl : Enum)
  | ofAlias (decl : Alias)

namespace Declaration

/-- The keyword of the declaration. -/
def keyword : Declaration → String
  | .ofInterface _ => "interface"
  | .ofClass _ => "class"
  | .ofEnum _ => "enum"
  | .ofAlias _ => "type"

/-- The declaration behind its keyword and the gap that follows it. -/
def behindKeyword : Declaration → List Char
  | .ofInterface decl => decl.printed
  | .ofClass decl => decl.printed
  | .ofEnum decl => decl.printed
  | .ofAlias decl => decl.printed

/-- The rest of its last line. -/
def tail : Declaration → Gap
  | .ofInterface decl => decl.braces.tail
  | .ofClass decl => decl.braces.tail
  | .ofEnum decl => decl.braces.tail
  | .ofAlias decl => decl.tail

/-- The declaration without comments. -/
def plain : Declaration → Declaration
  | .ofInterface decl => .ofInterface decl.plain
  | .ofClass decl => .ofClass decl.plain
  | .ofEnum decl => .ofEnum decl.plain
  | .ofAlias decl => .ofAlias decl.plain

/-- The declaration as it is found in the script. -/
def source : Declaration → Script.Declaration
  | .ofInterface decl => .ofInterface decl.source
  | .ofClass decl => .ofClass decl.source
  | .ofEnum decl => .ofEnum decl.source
  | .ofAlias decl => .ofAlias decl.source

end Declaration

/-! ## Scripts -/

/-- A declaration that may be exported. -/
structure Statement where
  lead : Gap := []
  /-- What stands behind the word that exports the declaration. -/
  exported : Option Parting := none
  decl : Declaration
  /-- What stands behind the keyword. -/
  behind : Parting

namespace Statement

/-- The declaration with its keyword. -/
def declText (statement : Statement) : List Char :=
  statement.decl.keyword.toList ++ (statement.behind.text ++ statement.decl.behindKeyword)

/-- The statement from its first word on. -/
def fromWord (statement : Statement) : List Char :=
  match statement.exported with
  | some gap => "export".toList ++ (gap.text ++ statement.declText)
  | none => statement.declText

/-- The statement as text. -/
def printed (statement : Statement) : List Char :=
  statement.lead.text ++ statement.fromWord

/-- The statement without comments. -/
def plain (statement : Statement) : Statement where
  lead := statement.lead.plain
  exported := statement.exported.map Parting.plain
  decl := statement.decl.plain
  behind := statement.behind.plain

end Statement

/-- The statements as a script. -/
def script (statements : List Statement) : String :=
  String.ofList (statements.flatMap Statement.printed)

end BeanGen.Spaced
