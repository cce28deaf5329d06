import BeanGen.Yaml.Token

/-!
# Nodes of a document

A document is a tree of scalars, sequences and mappings. Aliases are replaced by the node they name.
Only inside the node that it names an alias stays a leaf, so that a document that contains itself has
a finite tree, too.
-/

namespace BeanGen.Yaml

/-- A node with the tag that is written in front of it. -/
inductive Node where
  | scalar (tag : Option String) (plain : Bool) (text : String)
  | sequence (tag : Option String) (items : List Node)
  | mapping (tag : Option String) (entries : List (Node × Node))
  /-- The node around this place that has a name. -/
  | surrounding (name : String)
  deriving Repr, Inhabited

/-- The node that is not written at all. -/
def Node.empty : Node := .scalar none true ""

/-- A document: its node, and the nodes in it that have a name. -/
structure Document where
  root : Node
  named : List (String × Node) := []
  deriving Repr, Inhabited

/-- What is left to read, and the nodes that have a name. A node has its name before it is
complete. -/
structure Nodes where
  tokens : List Token
  handles : List (String × String)
  named : List (String × Option Node) := []

/-- Reads a part of the tokens. -/
abbrev Composing := StateT Nodes Option

namespace Composing

/-- The next token. -/
def peek : Composing (Option Token) := do
  return (← get).tokens.head?

/-- Passes over the next token. -/
def skip : Composing Unit :=
  modify fun nodes => { nodes with tokens := nodes.tokens.tail }

/-- The next token is one of these. -/
def at_ (tokens : List Token) : Composing Bool := do
  return (← peek).any tokens.contains

/-- Passes over a token that has to come next. -/
def expect (token : Token) : Composing Unit := do
  if (← at_ [token]) then skip else failure

/-- The full tag that is written with a handle. -/
def fullTag (handle : Option String) (suffix : String) : Composing String := do
  match handle with
  | none => return suffix
  | some handle =>
    match (← get).handles.lookup handle with
    | some front => return front ++ suffix
    | none => failure

/-- The properties in front of a node: an anchor and a tag, in any order. -/
def properties : Composing (Option String × Option String) := do
  match ← peek with
  | some (.anchor name) =>
    skip
    match ← peek with
    | some (.tag handle suffix) =>
      skip
      return (some name, some (← fullTag handle suffix))
    | _ => return (some name, none)
  | some (.tag handle suffix) =>
    skip
    match ← peek with
    | some (.anchor name) =>
      skip
      return (some name, some (← fullTag handle suffix))
    | _ => return (none, some (← fullTag handle suffix))
  | _ => return (none, none)

/-- Gives a node its name. A name can be given only once. -/
def declareName (name : Option String) : Composing Unit := do
  match name with
  | none => pure ()
  | some name =>
    if (← get).named.any (·.1 == name) then failure
    else modify fun nodes => { nodes with named := (name, none) :: nodes.named }

/-- Says which node a name stands for. -/
def setNamed (name : Option String) (node : Node) : Composing Unit :=
  match name with
  | none => pure ()
  | some name => modify fun nodes => { nodes with named := (name, some node) :: nodes.named }

/-- The node that a name stands for. -/
def named (name : String) : Composing Node := do
  match (← get).named.lookup name with
  | some (some node) => return node
  | some none => return .surrounding name
  | none => failure

mutual

/-- A node. Block collections are read only where `block` says so; `entries` allows a sequence that
is not indented. -/
def node : Nat → Bool → Bool → Composing Node
  | 0, _, _ => failure
  | fuel + 1, block, entries => do
    match ← peek with
    | some (.alias name) =>
      skip
      named name
    | _ =>
      let (name, tag) ← properties
      declareName name
      let written := tag.isSome || name.isSome
      let tag' := if tag = some "!" then none else tag
      let result : Node ← match ← peek with
        | some (.scalar plain text) =>
          skip
          pure (.scalar tag' (plain || tag == some "!") text)
        | some .entry =>
          if entries then return ← finish name (.sequence tag' (← indentless fuel))
          else if written then pure (.scalar tag' true "") else failure
        | some .flowSequence =>
          skip
          pure (.sequence tag' (← flowItems fuel true))
        | some .flowMapping =>
          skip
          pure (.mapping tag' (← flowEntries fuel true))
        | some .blockSequence =>
          if block then do
            skip
            pure (.sequence tag' (← blockItems fuel))
          else if written then pure (.scalar tag' true "") else failure
        | some .blockMapping =>
          if block then do
            skip
            pure (.mapping tag' (← blockEntries fuel))
          else if written then pure (.scalar tag' true "") else failure
        | _ => if written then pure (.scalar tag' true "") else failure
      finish name result
where
  /-- Names the node that was read. -/
  finish (name : Option String) (node : Node) : Composing Node := do
    setNamed name node
    return node

/-- The node in front of one of the tokens, or the empty one if one of them comes next. -/
def nodeBefore : Nat → Bool → Bool → List Token → Composing Node
  | 0, _, _, _ => failure
  | fuel + 1, block, entries, stops => do
    if (← at_ stops) then return .empty else node fuel block entries

/-- The entries of a block sequence with its end. -/
def blockItems : Nat → Composing (List Node)
  | 0 => failure
  | fuel + 1 => do
    if (← at_ [.entry]) then
      skip
      let item ← nodeBefore fuel true false [.entry, .blockEnd]
      return item :: (← blockItems fuel)
    else
      expect .blockEnd
      return []

/-- The entries of a sequence that is indented like the mapping around it. -/
def indentless : Nat → Composing (List Node)
  | 0 => failure
  | fuel + 1 => do
    if (← at_ [.entry]) then
      skip
      let item ← nodeBefore fuel true false [.entry, .key, .value, .blockEnd]
      return item :: (← indentless fuel)
    else return []

/-- The entries of a block mapping with its end. -/
def blockEntries : Nat → Composing (List (Node × Node))
  | 0 => failure
  | fuel + 1 => do
    if (← at_ [.key]) then
      skip
      let key ← nodeBefore fuel true true [.key, .value, .blockEnd]
      let value ←
        if (← at_ [.value]) then
          skip
          nodeBefore fuel true true [.key, .value, .blockEnd]
        else pure .empty
      return (key, value) :: (← blockEntries fuel)
    else
      expect .blockEnd
      return []

/-- An entry of a flow mapping, or the single pair in a flow sequence, up to its end. -/
def flowEntry : Nat → Token → Composing (Node × Node)
  | 0, _ => failure
  | fuel + 1, close => do
    if (← at_ [.key]) then
      skip
      let key ← nodeBefore fuel false false [.value, .comma, close]
      let value ←
        if (← at_ [.value]) then
          skip
          nodeBefore fuel false false [.comma, close]
        else pure .empty
      return (key, value)
    else return (← node fuel false false, .empty)

/-- The items of a flow sequence with its end. -/
def flowItems : Nat → Bool → Composing (List Node)
  | 0, _ => failure
  | fuel + 1, first => do
    if (← at_ [.flowSequenceEnd]) then
      skip
      return []
    else
      if !first then expect .comma
      if (← at_ [.flowSequenceEnd]) then
        skip
        return []
      else
        let item ←
          if (← at_ [.key]) then
            let entry ← flowEntry fuel .flowSequenceEnd
            pure (Node.mapping none [entry])
          else node fuel false false
        return item :: (← flowItems fuel false)

/-- The entries of a flow mapping with its end. -/
def flowEntries : Nat → Bool → Composing (List (Node × Node))
  | 0, _ => failure
  | fuel + 1, first => do
    if (← at_ [.flowMappingEnd]) then
      skip
      return []
    else
      if !first then expect .comma
      if (← at_ [.flowMappingEnd]) then
        skip
        return []
      else
        let entry ← flowEntry fuel .flowMappingEnd
        return entry :: (← flowEntries fuel false)

end

/-- The tag handles that are known without a directive. -/
def defaultHandles : List (String × String) :=
  [("!", "!"), ("!!", "tag:yaml.org,2002:")]

/-- The handles that directives declare, and what follows them. The version has to be 1, and neither
it nor a handle can be given twice. -/
def directives? (version : Bool) (handles : List (String × String)) : List Token →
    Option (List (String × String) × List Token)
  | .directive (.version major) :: rest =>
    if version || major != 1 then none else directives? true handles rest
  | .directive (.tagHandle handle front) :: rest =>
    if handles.any (·.1 == handle) then none
    else directives? version (handles ++ [(handle, front)]) rest
  | .directive .other :: rest => directives? version handles rest
  | tokens => some (handles, tokens)

/-- Nothing follows a document but its end. -/
def isFinished (tokens : List Token) : Bool :=
  tokens.all (· == .documentEnd)

/-- The document that begins with these tokens and ends with them. -/
def root? (handles : List (String × String)) (tokens : List Token) : Option Document := do
  let (node, state) ←
    (node (8 * (tokens.length + 1)) true false).run { tokens := tokens, handles := handles }
  let named := state.named.filterMap fun (name, node) => node.map (name, ·)
  if isFinished state.tokens then return ⟨node, named⟩ else none

/-- The only document in the tokens; there may be no document at all. -/
def document? (tokens : List Token) : Option (Option Document) :=
  match tokens with
  | [] => some none
  | .directive _ :: _ | .documentStart :: _ => do
    let (declared, rest) ← directives? false [] tokens
    match rest with
    | .documentStart :: rest =>
      if isFinished rest then return some ⟨.empty, []⟩
      else return some (← root? (declared ++ defaultHandles) rest)
    | _ => none
  | _ => (root? defaultHandles tokens).map some

end Composing

/-- The document of a text; nothing inside if the text is empty. -/
def Document.ofText? (text : String) : Option (Option Document) :=
  (Token.ofText? text).bind Composing.document?

end BeanGen.Yaml
