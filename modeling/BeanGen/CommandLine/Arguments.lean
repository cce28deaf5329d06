import BeanGen.CommandLine.Misuse
import BeanGen.Text.Similarity
import BeanGen.Text.Slice

/-!
# Arguments

The words behind a command are roots and options in any order. A path follows its option as the next
word, behind `=`, or directly behind the letter of a short option. Behind `--` every word is a root.
-/

namespace BeanGen.CommandLine

/-- What the words behind a command say. -/
structure Arguments where
  roots : List String := []
  paths : List (PathOption × String) := []
  asksHelp : Bool := false
  deriving DecidableEq, Repr

/-- A word that begins like an option. -/
inductive OptionWord where
  /-- An option that stands alone. -/
  | flag (name : String)
  /-- An option together with its path. -/
  | closed (option : PathOption) (path : String)
  /-- An option, called by one of its names, whose path is the next word. -/
  | opened (option : PathOption) (name : String)
  deriving DecidableEq, Repr

/-- The word is an option: it begins with a hyphen and does not end there. -/
def isOptionWord (word : String) : Bool :=
  match word.toList with
  | '-' :: _ :: _ => true
  | _ => false

/-- The name in front of the first `=` of a word, and the value behind it. -/
def splitValue (word : String) : String × Option String :=
  let name := word.toList.takeWhile (· != '=')
  match word.toList.drop name.length with
  | _ :: value => (String.ofList name, some (String.ofList value))
  | [] => (word, none)

/-- The names that are similar to a name, in alphabetical order. -/
def similarNames (names : List String) (name : String) : List String :=
  (names.filter fun known => Text.isSimilar known name).mergeSort fun a b => decide (a ≤ b)

/-- Reads an option by its long name. Nothing is said of other names. -/
def longOption? (options : List PathOption) (flags : List String) (word : String) :
    Option (Except Misuse OptionWord) :=
  let (name, value) := splitValue word
  if flags.contains name then
    some (if value.isSome then .error (.unwantedValue name) else .ok (.flag name))
  else
    (options.find? (·.long = name)).map fun option =>
      .ok (match value with
        | some path => .closed option path
        | none => .opened option name)

/-- Reads an option by its letter; the path may follow directly. -/
def shortOption (options : List PathOption) (letter : Char) (rest : List Char) :
    Except Misuse OptionWord :=
  let name := String.ofList ['-', letter]
  match options.find? (·.short = some letter) with
  | none => .error (.noSuchOption name [])
  | some option =>
    .ok (if rest.isEmpty then .opened option name else .closed option (String.ofList rest))

/-- Reads an option. A word that begins with two hyphens has to be a long name. -/
def optionWord (options : List PathOption) (flags : List String) (word : String) :
    Except Misuse OptionWord :=
  match longOption? options flags word with
  | some read => read
  | none =>
    match word.toList with
    | '-' :: letter :: rest =>
      if letter = '-' then
        let name := (splitValue word).1
        .error (.noSuchOption name (similarNames (options.map (·.long) ++ flags) name))
      else shortOption options letter rest
    | _ => .error (.noSuchOption word [])

/-- Reads the options in front of a command: whether help is asked for, and the words from the
command on. `--` ends the options. -/
def leadingOptions : List String → Except Misuse (Bool × List String)
  | [] => .ok (false, [])
  | word :: words =>
    if word = "--" then .ok (false, words)
    else if isOptionWord word then
      match optionWord [] [helpFlag] word with
      | .error misuse => .error misuse
      | .ok _ => (leadingOptions words).map fun (_, words) => (true, words)
    else .ok (false, word :: words)

namespace Arguments

/-- Reads the words behind a command. -/
def read (options : List PathOption) (flags : List String) : List String → Except Misuse Arguments
  | [] => .ok {}
  | word :: words =>
    if word = "--" then .ok { roots := words }
    else if isOptionWord word then
      match optionWord options flags word, words with
      | .error misuse, _ => .error misuse
      | .ok (.flag name), words =>
        (read options flags words).map fun rest =>
          { rest with asksHelp := rest.asksHelp || name == helpFlag }
      | .ok (.closed option path), words =>
        (read options flags words).map fun rest => { rest with paths := (option, path) :: rest.paths }
      | .ok (.opened _ name), [] => .error (.missingPath name)
      | .ok (.opened option _), path :: words =>
        (read options flags words).map fun rest => { rest with paths := (option, path) :: rest.paths }
    else (read options flags words).map fun rest => { rest with roots := word :: rest.roots }

/-- The path that is given last for an option. -/
def path? (arguments : Arguments) (option : PathOption) : Option String :=
  arguments.paths.reverse.lookup option

/-- The options in the order in which they are first given. -/
def options (arguments : Arguments) : List PathOption :=
  (arguments.paths.map (·.1)).eraseDups

/-- What is wrong with a path: it leads to a thing of the other kind. -/
def pathMisuse? (found : String → Option FileTree) (label : String) (kind : PathKind)
    (path : String) : Option Misuse :=
  match found path with
  | some thing => if kind.admits thing then none else some (.wrongKind label kind path)
  | none => none

/-- The first thing that is wrong with arguments: with a path of an option, with the roots, or with
an option that is not there. `found` tells what is at a path. -/
def misuse? (command : Command) (found : String → Option FileTree) (arguments : Arguments) :
    Option Misuse :=
  let ofOptions := arguments.options.findSome? fun option =>
    (arguments.path? option).bind (pathMisuse? found option.label option.kind)
  let ofRoots :=
    if arguments.roots.isEmpty then some .missingRoots
    else arguments.roots.findSome? (pathMisuse? found rootsLabel .directory)
  let missing := command.options.find? fun option =>
    option.required && (arguments.path? option).isNone
  ofOptions <|> ofRoots <|> missing.map .missingOption

end Arguments

end BeanGen.CommandLine
