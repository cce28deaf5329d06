import BeanGen.Text.Blank
import BeanGen.Text.Slice

/-!
# Ignore rules

A directory may hold a file with the patterns of paths that are to be left out. A line is one rule;
lines that begin with `#` are comments. `!` at the beginning takes a path back in, and the last rule
that matches a path decides. In a pattern `*` and `?` stand for characters of one name, brackets for
one out of a set, `**` for any number of directories; a pattern without a slash inside matches at any
depth, and a slash at the end asks for a directory. A rule that matches a directory also matches all
that is in it. A line with a bracket that is not closed says nothing; one without anything to match, or
with a backslash that has nothing behind it, is malformed.
-/

namespace BeanGen

open Text

/-- A part of a path pattern. -/
inductive PathPattern where
  /-- One character with the property. -/
  | one (accepts : Char → Bool)
  /-- Any number of characters with the property. -/
  | many (accepts : Char → Bool)
  /-- The parts in a row, or nothing. -/
  | optional (parts : List PathPattern)

namespace PathPattern

mutual

/-- How many nodes a part has. -/
def weight : PathPattern → Nat
  | one _ => 1
  | many _ => 1
  | optional parts => 1 + weights parts

/-- How many nodes the parts have. -/
def weights : List PathPattern → Nat
  | [] => 0
  | part :: parts => weight part + weights parts

end

/-- The nodes of two rows add up. -/
theorem weights_append (a b : List PathPattern) : weights (a ++ b) = weights a + weights b := by
  induction a with
  | nil => simp [weights]
  | cons part parts ih => simp [weights, ih, Nat.add_assoc]

/-- The parts in a row match the whole text. A line break at the end of the text is not looked at. -/
def matchesAll : List PathPattern → List Char → Bool
  | [], cs => cs.isEmpty || cs == ['\n']
  | one _ :: _, [] => false
  | one accepts :: parts, c :: cs => accepts c && matchesAll parts cs
  | many _ :: parts, [] => matchesAll parts []
  | many accepts :: parts, c :: cs =>
    matchesAll parts (c :: cs) || (accepts c && matchesAll (many accepts :: parts) cs)
  | optional inner :: parts, cs => matchesAll (inner ++ parts) cs || matchesAll parts cs
termination_by parts cs => (cs.length, weights parts)
decreasing_by
  · exact Prod.Lex.left _ _ (Nat.lt_succ_self _)
  · exact Prod.Lex.right _ (by simp only [weights, weight]; omega)
  · exact Prod.Lex.right _ (by simp only [weights, weight]; omega)
  · exact Prod.Lex.left _ _ (Nat.lt_succ_self _)
  · exact Prod.Lex.right _ (by simp only [weights, weight, weights_append]; omega)
  · exact Prod.Lex.right _ (by simp only [weights, weight]; omega)

/-- A character of a name. -/
def inName (c : Char) : Bool := c != '/'

/-- Any character but a line break. -/
def anywhere (c : Char) : Bool := c != '\n'

/-- The slash between two names. -/
def slash : PathPattern := one (· == '/')

/-- One character of a set: single characters and ranges. A hyphen at the end is itself. -/
def setMembers : List Char → List (Char × Char)
  | lo :: '-' :: hi :: rest => (lo, hi) :: setMembers rest
  | c :: rest => (c, c) :: setMembers rest
  | [] => []

/-- The inside of a bracket expression and what follows it. A closing bracket in first place belongs
to the inside. -/
def bracketInside? (cs : List Char) : Option (List Char × List Char) :=
  let first := match cs with
    | ']' :: _ => 1
    | _ => 0
  let inside := cs.take first ++ (cs.drop first).takeWhile (· != ']')
  match cs.drop inside.length with
  | _ :: rest => some (inside, rest)
  | [] => none

/-- The rest behind the inside is shorter. -/
theorem length_lt_of_bracketInside? {cs inside rest : List Char}
    (h : bracketInside? cs = some (inside, rest)) : rest.length < cs.length := by
  simp only [bracketInside?] at h
  split at h
  · rename_i heq
    obtain ⟨-, rfl⟩ := by simpa using h
    have := congrArg List.length heq
    simp at this
    omega
  · simp at h

/-- A bracket expression behind its opening bracket: whether it is negated, its inside, and what
follows it. -/
def bracket? (cs : List Char) : Option (Bool × List Char × List Char) :=
  match cs with
  | '!' :: rest => (bracketInside? rest).map (true, ·)
  | '^' :: rest => (bracketInside? rest).map (true, ·)
  | _ => (bracketInside? cs).map (false, ·)

/-- The rest behind a bracket expression is shorter. -/
theorem length_lt_of_bracket? {cs inside rest : List Char} {negated : Bool}
    (h : bracket? cs = some (negated, inside, rest)) : rest.length < cs.length := by
  unfold bracket? at h
  split at h <;> obtain ⟨found, hfound, heq⟩ := Option.map_eq_some_iff.1 h <;> obtain ⟨-, rfl⟩ := heq
  · exact Nat.lt_succ_of_lt (length_lt_of_bracketInside? hfound)
  · exact Nat.lt_succ_of_lt (length_lt_of_bracketInside? hfound)
  · exact length_lt_of_bracketInside? hfound

/-- One character that is in the set, or that is not. -/
def oneOf (negated : Bool) (inside : List Char) : PathPattern :=
  let members := setMembers inside
  one fun c => (members.any fun range => range.1 ≤ c && c ≤ range.2) != negated

/-- Why a text is no pattern. -/
inductive Fault where
  /-- A bracket is not closed. -/
  | openBracket
  /-- There is nothing to match, or a backslash at the end of a name has no character behind it. -/
  | malformed
  deriving DecidableEq, Repr

/-- The parts for one name of a pattern. -/
def ofName : List Char → Except Fault (List PathPattern)
  | [] => .ok []
  | ['\\'] => .error .malformed
  | '\\' :: c :: rest => (ofName rest).map (one (· == c) :: ·)
  | c :: rest =>
    if c = '*' then (ofName rest).map (many inName :: ·)
    else if c = '?' then (ofName rest).map (one inName :: ·)
    else if c = '[' then
      match _h : bracket? rest with
      | some (negated, inside, after) => (ofName after).map (oneOf negated inside :: ·)
      | none => .error .openBracket
    else (ofName rest).map (one (· == c) :: ·)
termination_by cs => cs.length
decreasing_by
  · simp only [List.length_cons]
    omega
  · exact Nat.lt_succ_self _
  · exact Nat.lt_succ_self _
  · exact Nat.lt_succ_of_lt (length_lt_of_bracket? _h)
  · exact Nat.lt_succ_self _

/-- All that may follow a path: what lies in it, if it is a directory. -/
def descendants : List PathPattern :=
  [optional [slash, many anywhere]]

/-- The parts of a pattern from its names on. `first` tells the first name, `joined` whether a slash
comes before the next name. -/
def ofNames (first joined : Bool) : List (List Char) → Except Fault (List PathPattern)
  | [] => .ok []
  | name :: names =>
    let front := if joined then [slash] else []
    let back := if names.isEmpty then descendants else []
    if name = ['*', '*'] then
      if first then
        (ofNames false false names).map (optional [one anywhere, many anywhere, slash] :: ·)
      else if names.isEmpty then .ok [slash, many anywhere]
      else (ofNames false true names).map (optional [slash, one anywhere, many anywhere] :: ·)
    else do
      let here ← if name = ['*'] then .ok [one inName, many inName] else ofName name
      return front ++ here ++ back ++ (← ofNames false true names)

/-- The names without a `**` behind another. -/
def mergeAnyDirs : List (List Char) → List (List Char)
  | a :: b :: rest =>
    if a = ['*', '*'] ∧ b = ['*', '*'] then mergeAnyDirs (b :: rest) else a :: mergeAnyDirs (b :: rest)
  | names => names

/-- The names that a pattern is matched by, counted from the top of the tree. -/
def anchored : List (List Char) → List (List Char)
  | [] :: rest => rest
  | [name] => if name = ['*', '*'] then [name] else [['*', '*'], name]
  | [name, []] => if name = ['*', '*'] then [name, []] else [['*', '*'], name, []]
  | names => names

/-- A slash at the end of a pattern asks for all that lies in a directory. -/
def openEnd (names : List (List Char)) : List (List Char) :=
  if 1 < names.length ∧ names.getLast? = some [] then names.dropLast ++ [['*', '*']] else names

/-- Any character. -/
def anyChar (_ : Char) : Bool := true

/-- Matches every path. -/
def everything : List PathPattern :=
  [many anyChar, one anywhere, many anyChar]

/-- Matches every path that leads into or through a directory. -/
def insideDirectories : List PathPattern :=
  [many anyChar, slash, many anyChar]

/-- Reads a pattern. -/
def ofText (cs : List Char) : Except Fault (List PathPattern) :=
  let names := splitOn '/' cs
  match mergeAnyDirs (openEnd (anchored names)) with
  | [] => .error .malformed
  | [['*', '*']] => .ok (if names.getLast? = some [] then insideDirectories else everything)
  | [['*', '*'], ['*']] => .ok everything
  | [['*', '*'], ['*'], ['*', '*']] => .ok insideDirectories
  | names => ofNames true false names

end PathPattern

/-- A rule: what it says of the paths that match its pattern. -/
structure IgnoreRule where
  ignores : Bool
  pattern : List PathPattern

namespace IgnoreRule

/-- A line without the white space at its end. White space behind a backslash stays. -/
def trimLine (cs : List Char) : List Char :=
  if ['\\', ' '].isSuffixOf cs then cs else trimEnd cs

/-- The rule of a pattern. A pattern with an open bracket makes no rule. -/
def ofPattern (ignores : Bool) (cs : List Char) : Except PathPattern.Fault (Option IgnoreRule) :=
  match PathPattern.ofText cs with
  | .ok pattern => .ok (some ⟨ignores, pattern⟩)
  | .error .openBracket => .ok none
  | .error .malformed => .error .malformed

/-- Reads a line; nothing if it holds no rule. -/
def ofLine (line : List Char) : Except PathPattern.Fault (Option IgnoreRule) :=
  match trimLine line with
  | [] => .ok none
  | '#' :: _ => .ok none
  | ['/'] => .ok none
  | '!' :: cs => ofPattern false cs
  | cs => ofPattern true cs

/-- Reads the lines of a file. What cannot be read is given back: the first malformed line. -/
def ofLines (lines : List (List Char)) : Except String (List IgnoreRule) := do
  let rules ← lines.mapM fun line => (ofLine line).mapError fun _ => String.ofList line
  return rules.filterMap id

/-- The last rule that matches the path says that it is ignored. -/
def ignored (rules : List IgnoreRule) (path : List Char) : Bool :=
  match rules.reverse.find? fun rule => PathPattern.matchesAll rule.pattern path with
  | some rule => rule.ignores
  | none => false

end IgnoreRule

end BeanGen
