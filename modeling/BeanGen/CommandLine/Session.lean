import BeanGen.CommandLine.Arguments
import BeanGen.Run.Generation
import BeanGen.Run.Settings

/-!
# A session

What the program does for a command line: it plans what to write, or refuses. Paths that are not given
come from variables of the environment, or else are the usual ones.
-/

namespace BeanGen.CommandLine

/-- What a session is going to write, and what it says when all is written. -/
structure Plan where
  outputs : List Output
  report : String
  deriving DecidableEq, Repr

/-- Why a session writes nothing. -/
inductive Refusal where
  /-- Help is asked for. -/
  | help (command : Option Command)
  /-- The command line is wrong. -/
  | misused (command : Option Command) (misuse : Misuse)
  /-- The run failed. -/
  | failed (failure : Failure)
  deriving DecidableEq, Repr

namespace Refusal

/-- The exit code of the program. -/
def exitCode : Refusal → Nat
  | help _ => 0
  | misused .. => 2
  | failed _ => 1

/-- What the program says. -/
def text : Refusal → String
  | help command => usageLine command
  | misused command misuse => misuse.report command
  | failed failure => if failure.isReported then "Error: " ++ failure.message ++ "\n" else ""

end Refusal

/-- What a session sees: files, its working directory, and the variables of the environment. -/
structure Surroundings where
  tree : FileTree
  workDir : Place
  environment : List (String × String)

namespace Surroundings

/-- The first text that is not empty: the one given, or the value of the variable with the name. -/
def choose (around : Surroundings) (given : Option String) (name : String) : Option String :=
  (given.filter (· != "")) <|> ((around.environment.lookup name).filter (· != ""))

/-- The configuration. -/
def config (around : Surroundings) (arguments : Arguments) : Except Refusal Config :=
  let path := (around.choose (arguments.path? configOption) "TS2JAVA_CONFIG").getD "ts-to-java.yaml"
  (Config.load around.tree around.workDir (Place.tidy path)).mapError .failed

/-- The roots. -/
def roots (around : Surroundings) (arguments : Arguments) : Roots :=
  .ofTexts around.workDir arguments.roots

/-- The plan to generate source files. -/
def generatePlan (around : Surroundings) (arguments : Arguments) : Except Refusal Plan := do
  let outputDir := Place.tidy
    ((around.choose (arguments.path? outputOption) "TS2JAVA_OUTPUT_DIR").getD
      "generated-sources/ts-to-java")
  let modelPath := around.choose (arguments.path? modelOption) "TS2JAVA_MODEL_FILE"
  let config ← around.config arguments
  let outputs ← (generate config (around.roots arguments) around.tree
    (modelPath.map Place.tidy) outputDir).mapError .failed
  return {
    outputs
    report := "Generated " ++ toString (outputs.countP Output.isSource) ++ " files into " ++
      outputDir ++ "\n" }

/-- The plan to write the document of the declarations. -/
def documentPlan (around : Surroundings) (arguments : Arguments) : Except Refusal Plan := do
  let path := Place.tidy ((arguments.path? documentOption).getD "")
  let config ← around.config arguments
  let outputs ← (dumpModel config (around.roots arguments) around.tree path).mapError .failed
  return { outputs, report := "Model written to " ++ path ++ "\n" }

/-- The plan for a command and the words behind it. -/
def commandPlan (around : Surroundings) (command : Command) (words : List String) :
    Except Refusal Plan := do
  let arguments ←
    (Arguments.read command.options command.flags words).mapError (.misused (some command))
  if arguments.asksHelp then .error (.help (some command))
  match arguments.misuse? command (around.tree.find? around.workDir) with
  | some misuse => .error (.misused (some command) misuse)
  | none =>
    match command with
    | .generate => around.generatePlan arguments
    | .dumpModel => around.documentPlan arguments

/-- The plan for a command line. Before the command only help can be asked for. A word behind `--`
may begin like an option and still name a command; if it does not, it is read as an option. -/
def plan (around : Surroundings) (words : List String) : Except Refusal Plan := do
  let (asksHelp, words) ← (leadingOptions words).mapError (.misused none)
  match words with
  | [] => .error (.help none)
  | name :: rest =>
    if asksHelp then .error (.help none)
    match Command.ofName? name with
    | some command => around.commandPlan command rest
    | none =>
      let (asksHelp, _) ← (leadingOptions words).mapError (.misused none)
      if asksHelp then .error (.help none)
      .error (.misused none (.noSuchCommand name (similarNames (Command.all.map Command.name) name)))

end Surroundings

/-- What a session leaves: its exit code, what it said, and the files. -/
structure Outcome where
  exitCode : Nat
  text : String
  tree : FileTree

/-- A whole session. -/
def Surroundings.session (around : Surroundings) (words : List String) : Outcome :=
  match around.plan words with
  | .error refusal => ⟨refusal.exitCode, refusal.text, around.tree⟩
  | .ok plan =>
    match Output.writeAll around.workDir around.tree plan.outputs with
    | (tree, none) => ⟨0, plan.report, tree⟩
    | (tree, some failure) => ⟨(Refusal.failed failure).exitCode, (Refusal.failed failure).text, tree⟩

end BeanGen.CommandLine
