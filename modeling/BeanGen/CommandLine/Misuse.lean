import BeanGen.CommandLine.Command
import BeanGen.Text.Shown

/-!
# Misuse of the command line

What is wrong with the words of a command line, and what is said of it.
-/

namespace BeanGen.CommandLine

/-- What is wrong with a command line. -/
inductive Misuse where
  /-- There is no command with the name, but there are similar ones. -/
  | noSuchCommand (name : String) (similar : List String)
  /-- There is no option with the name, but there are similar ones. -/
  | noSuchOption (name : String) (similar : List String)
  /-- Nothing follows an option that needs a path. -/
  | missingPath (option : String)
  /-- An option that stands alone is given a value. -/
  | unwantedValue (option : String)
  /-- No root is given. -/
  | missingRoots
  /-- A required option is not given. -/
  | missingOption (option : PathOption)
  /-- A path leads to the wrong kind of thing. `label` tells what it is given for. -/
  | wrongKind (label : String) (kind : PathKind) (path : String)
  deriving DecidableEq, Repr

/-- How the roots are called. -/
def rootsLabel : String := "'ROOTS...'"

/-- The sentence on similar names of a kind of thing, if there are any. -/
def similarText (kind : String) (names : List String) : String :=
  match names.map Text.shown with
  | [] => ""
  | [name] => " Did you mean " ++ name ++ "?"
  | names => " (Possible " ++ kind ++ ": " ++ ", ".intercalate names ++ ")"

/-- What is said of a misuse. -/
def Misuse.message : Misuse → String
  | noSuchCommand name similar =>
    "No such command " ++ Text.shown name ++ "." ++ similarText "commands" similar
  | noSuchOption name similar =>
    "No such option " ++ Text.shown name ++ "." ++ similarText "options" similar
  | missingPath option => "Option " ++ Text.shown option ++ " requires an argument."
  | unwantedValue option => "Option " ++ Text.shown option ++ " does not take a value."
  | missingRoots => "Missing argument " ++ rootsLabel ++ "."
  | missingOption option => "Missing option " ++ option.label ++ "."
  | wrongKind label kind path =>
    "Invalid value for " ++ label ++ ": " ++ kind.title ++ " " ++ Text.shown path ++ " " ++
      kind.contrary ++ "."

/-- The name of the program. -/
def programName : String := "cli"

/-- The words that call a command, or the program itself. -/
def callText (command : Option Command) : String :=
  " ".intercalate (programName :: command.toList.map Command.name)

/-- The line that shows how a command, or the program itself, is used. -/
def usageLine (command : Option Command) : String :=
  "Usage: " ++ callText command ++
    (if command.isSome then " [OPTIONS] ROOTS...\n" else " [OPTIONS] COMMAND [ARGS]...\n")

/-- A misuse of an option itself is reported on its own, any other behind the usage. -/
def Misuse.showsUsage : Misuse → Bool
  | missingPath _ | unwantedValue _ => false
  | _ => true

/-- What is said when a command line is refused. -/
def Misuse.report (command : Option Command) (misuse : Misuse) : String :=
  let usage := usageLine command ++ "Try '" ++ callText command ++ " " ++ helpFlag ++
    "' for help.\n\n"
  (if misuse.showsUsage then usage else "") ++ "Error: " ++ misuse.message ++ "\n"

end BeanGen.CommandLine
