import BeanGen.Script.Reader
import BeanGen.Script.Recovery

/-!
# Mending

A phrase that breaks the grammar can be read when a part of it is left out, or when one token is filled
in. The first token that breaks it is found as the one behind the longest beginning that can be
completed; a mending has to change the text there. `mendings` gives the texts that come about this way,
the cheapest first: leaving out costs more the more phrases, tokens, characters and lines are left out.
The place of the change is marked by a gap, so that what holds it can be told from what is whole.
-/

namespace BeanGen.Script

/-! ## Tokens in their places -/

/-- A token of a text: what is around it. -/
structure Place where
  /-- The token in front. -/
  previous : Option Token
  /-- What stands in front of the white space in front of the token, last character first. -/
  before : List Char
  /-- The white space and comments in front of the token, and what follows them. -/
  fore : List Char
  /-- The token; none at the end of the script. -/
  token : Option Token

/-- The text from the token on. -/
def Place.start (place : Place) : List Char :=
  skip place.fore

/-- The text behind the token. -/
def Place.rest (place : Place) : List Char :=
  place.token.elim [] (·.rest)

/-- The first tokens of a text, at most as many as `count`, and the end of the text if it comes
before. -/
def places : Nat → Option Token → List Char → List Char → List Place
  | 0, _, _, _ => []
  | count + 1, previous, before, cs =>
    match token? (previous.any (·.endsOperand)) cs with
    | none => [⟨previous, before, cs, none⟩]
    | some token =>
      ⟨previous, before, cs, some token⟩ ::
        places count token ((textBefore token.rest cs).reverse ++ before) token.rest

/-! ## Where the grammar is broken -/

/-- The marks that close what the tokens leave open, the innermost first. With `angles`, the marks of
type arguments are brackets, too. -/
def closers (angles : Bool) (tokens : List Token) : List String :=
  tokens.foldl (fun closers token =>
    match token.closer? with
    | some closer => closer :: closers
    | none =>
      if token.isMark "<" then if angles then ">" :: closers else closers
      else if token.isMark ">" then if closers.head? = some ">" then closers.drop 1 else closers
      else if token.isCloser then (closers.dropWhile (!token.isMark ·)).drop 1
      else closers) []

/-- What can complete a phrase inside the brackets that are open, and behind them. -/
def completions : List (String × String) :=
  let inner := ["", " M", ":M", "=M", "=>M", "M:M", "''", " in M", "?M:M", "{}", " is M"]
  let outer := ["", "{}", "=M", "=>M", ":M", " from''", "(){}", "M{}", " M"]
  inner.flatMap fun first => outer.map fun last => (first, last)

/-- The beginning of a text can be completed so that it is read, with what may end it. -/
def isBeginning (reads : List Char → Bool) (beginning : List Char) (tokens : List Token) : Bool :=
  [true, false].any fun angles =>
    let closing := (closers angles tokens).flatMap (·.toList)
    completions.any fun (inner, outer) =>
      reads (beginning ++ ' ' :: inner.toList ++ closing ++ outer.toList)

/-- How many tokens the longest beginning has that can be completed. -/
def breakIndex (reads : List Char → Bool) (places : List Place) : Nat :=
  let tokens := places.filterMap (·.token)
  let holds (index : Nat) : Bool :=
    places[index]?.any fun place => isBeginning reads place.before.reverse (tokens.take index)
  search holds 8 0 places.length
where
  /-- The last number from `low` on, and below `high`, at which the test holds, if it holds up to there. -/
  search (holds : Nat → Bool) : Nat → Nat → Nat → Nat
    | 0, low, _ => low
    | steps + 1, low, high =>
      let middle := (low + high) / 2
      if high ≤ low + 1 then low
      else if holds middle then search holds steps middle high
      else search holds steps low middle

/-! ## What can be changed -/

/-- A text in which one place near its beginning is mended. -/
structure Mending where
  cost : Nat
  text : List Char
  /-- The end of the text that is as it was. -/
  behind : List Char

/-- The part is left out. -/
def gapOf (part : List Char) : List Char :=
  gapStart :: part ++ [gapEnd]

/-- What was counted of the tokens inside a bracket. -/
structure PhraseCount where
  count : Nat := 0
  /-- The last token can end an operand. -/
  afterOperand : Bool := false
  /-- The last token is an operator that joins what follows to what is in front. -/
  joined : Bool := false

/-- The count with one more token that is no bracket. -/
def PhraseCount.add (counted : PhraseCount) (token : Token) : PhraseCount :=
  let { count, afterOperand, joined } := counted
  if afterOperand && token.isOneOfMarks ["|", "&", ".", "=>"] then ⟨count, false, true⟩
  else ⟨if joined then count else count + 1, token.endsOperand, false⟩

/-- The count with all that brackets enclose, which belongs to the operand in front of them. -/
def PhraseCount.addBrackets (counted : PhraseCount) : PhraseCount :=
  ⟨if counted.afterOperand || counted.joined then counted.count else counted.count + 1, true, false⟩

/-- How many phrases the tokens make up: what brackets enclose is one, and so are operands that are
joined by operators. -/
def phraseCount (tokens : List Token) : Nat :=
  let levels : List PhraseCount := tokens.foldl (fun levels token =>
    if token.closer?.isSome || token.isMark "<" then {} :: levels
    else match levels, token.isCloser || token.isMark ">" with
      | _ :: outer :: levels, true => outer.addBrackets :: levels
      | inner :: levels, _ => inner.add token :: levels
      | [], _ => []) [{}]
  levels.foldr (·.count + ·) 0 + (levels.length - 1)

/-- What it costs to leave out the tokens that make up the text, those in front of the break and those
behind it. -/
def gapCost (kept passed : List Token) (text : List Char) : Nat :=
  let passedCount := passed.foldr (fun token total => (if token.isString then 3 else 1) + total) 0
  let length := text.foldr (·.utf8Size + ·) 0
  let value := if passed.isEmpty && kept.length == 1 && kept.any (·.isOneOfMarks ["=", ":"]) then 1 else 0
  500 + 100 * (phraseCount kept + passedCount) + length + 30 * text.count '\n' - value

/-- The text without the tokens from the first index up to the second. -/
def leaveOut? (places : List Place) (breakIndex first last : Nat) : Option Mending := do
  let start ← places[first]?
  let stop ← places[last - 1]?
  let tokens := places.filterMap (·.token)
  if stop.token.isNone then failure
  let part := textBefore stop.rest start.start
  let lead := textBefore start.start start.fore
  return {
    cost := gapCost ((tokens.take breakIndex).drop first) ((tokens.take last).drop breakIndex) part
    text := start.before.reverseAux (lead ++ gapOf part ++ stop.rest)
    behind := stop.rest }

/-- The text with the token filled in at the place. -/
def Place.fillIn (place : Place) (cost : Nat) (filler : String) : Mending :=
  let behind := filler.toList ++ gapOf [] ++ place.fore
  { cost, text := place.before.reverseAux (gapOf [] ++ behind), behind }

/-- Tokens in front of which a name can be missing. -/
def nameEnds : List String :=
  [";", ",", ")", "]", "\x7d", ">"]

/-- The text with a name filled in at the place, in front of a token that ends a phrase. -/
def Place.fillName? (preferred : Bool) (place : Place) : Option Mending :=
  let operator := place.previous.any fun token =>
    token.isOneOfMarks ["|", "&"] || token.isOneOfWords ["keyof", "typeof", "readonly"]
  if place.token.any (·.isOneOfMarks nameEnds) then
    some (place.fillIn (if preferred && operator then 600 else 610) (String.singleton missingName))
  else none

/-- How a phrase is mended. -/
structure MendingRules (α : Type) where
  /-- The phrase with its end, and what follows it. -/
  read? : List Char → Option (α × List Char)
  /-- What may end the phrase. -/
  ending : String
  /-- The tokens that can be filled in. -/
  fillers : List String
  /-- The text can follow the token that is filled in. -/
  canFollow : String → List Char → Bool
  /-- How many tokens behind the break can be left out. -/
  reach : Nat
  /-- Behind a token too many, these show that it is the last of two, and not the one before. -/
  enders : List String
  /-- They show it for the first two tokens of the first phrase of its kind. -/
  firstEnders : List String := []
  /-- A missing name is likelier than an operator too many. -/
  namePreferred : Bool

/-- The ways to mend a text at the break, the cheapest first. -/
def MendingRules.mendings {α : Type} (rules : MendingRules α) (first : Bool) (places : List Place)
    (breakIndex : Nat) : List Mending :=
  let ranges := (List.range (breakIndex + 1)).flatMap fun start =>
    (List.range (rules.reach + 1)).filterMap fun more =>
      if start < breakIndex + more then some (start, breakIndex + more) else none
  let isWord (token : Token) : Bool := token.kind == .word
  let enders := if first && breakIndex == 1 then rules.firstEnders else rules.enders
  let late := ((places[breakIndex + 1]?).bind (·.token)).all fun next =>
    next.isOneOfMarks enders ||
      (isWord next && !((places[breakIndex]?).bind (·.token)).any (·.closer?.isSome))
  let out := (if late then ranges.reverse else ranges).filterMap fun (first, last) =>
    leaveOut? places breakIndex first last
  let filled := (places[breakIndex]?.toList).flatMap fun place =>
    let fillers := if breakIndex = 0 then [] else
      rules.fillers.filter (rules.canFollow · place.start)
    (place.fillName? rules.namePreferred).toList ++ fillers.map fun filler =>
      place.fillIn (if filler == "\x7d" && place.token.isSome then 750 else 610) filler
  (out ++ filled).mergeSort fun a b => a.cost ≤ b.cost

/-- What is read when the text is mended in the cheapest way. -/
def MendingRules.mended? {α : Type} (rules : MendingRules α) (first : Bool)
    (read? : List Char → Option (α × List Char)) (cs : List Char) : Option (α × List Char) :=
  let places := places 24 none [] cs
  let reads (text : List Char) : Bool :=
    (rules.read? (text ++ rules.ending.toList)).any fun (_, rest) =>
      (skip rest).length ≤ rules.ending.length
  (rules.mendings first places (breakIndex reads places)).findSome? fun mending => do
    let (item, rest) ← read? mending.text
    if rest.length ≤ mending.behind.length && !(skip mending.behind).isEmpty then some (item, rest)
    else none

end BeanGen.Script
