import OrderKeeper.CommandLine.Options
import OrderKeeper.CommandLine.Values

/-!
Contract: what a command line asks for.

Owns: the commands of the program with their options, and their reading.  The options
that every command has may stand before or after it; the value after it counts.
-/

set_option autoImplicit false

namespace OrderKeeper.CommandLine

inductive Command where
  /-- Runs every daemon on paper venues. -/
  | run (seedPrices : List SeedPrice) (walkStep : Binary64)
  /-- Runs one reconciliation pass and prints its summary. -/
  | singlePass
deriving DecidableEq

structure Invocation where
  command : Command
  verbosity : String
  settingsPath : Option String
deriving DecidableEq

/-- The walk step of a run that names none, `0.002`. -/
def defaultWalkStep : Binary64 := .ofDecimal false 2 (-3)

def defaultVerbosity : String := "info"

def sharedOptions : List OptionRule :=
  [{ name := "verbose", repeatable := false, accepts := fun _ => true },
    { name := "config", repeatable := false, accepts := fun _ => true }]

def runOptions : List OptionRule :=
  [{ name := "seed-price", repeatable := true
     accepts := fun text => (SeedPrice.parse text).toBool },
    { name := "walk-step", repeatable := false
      accepts := fun text => (WalkStep.parse text).toBool }]

def commandNames : List String := ["run", "reconcile-once"]

/-- The word that asks for help about a command. -/
def helpCommand : String := "help"

def mainGrammar : Grammar :=
  { options := sharedOptions, commands := commandNames ++ [helpCommand], hasVersion := true }

def commandGrammar (command : String) : Grammar :=
  { options := if command = "run" then sharedOptions ++ runOptions else sharedOptions
    commands := []
    hasVersion := false }

/-- Help about the program, or about the one command that is named. -/
def answerHelp : List String → UsageError
  | [] => .help
  | [topic] => if mainGrammar.commands.contains topic then .help else .invalidCommand
  | _ => .invalidCommand

/-- The last value given, the one after the command before the one in front of it. -/
def sharedValue? (before after : Reading) (name : String) : Option String :=
  ((after.valuesOf name).head?).or (before.valuesOf name).head?

def buildCommand (name : String) (reading : Reading) : Command :=
  if name = "run" then
    let seedPrices := (reading.valuesOf "seed-price").filterMap fun text =>
      (SeedPrice.parse text).toOption
    let walkStep := (reading.valuesOf "walk-step").head?.bind fun text =>
      (WalkStep.parse text).toOption
    .run seedPrices (walkStep.getD defaultWalkStep)
  else .singlePass

/-- Reads the words after a command to the end of the line. -/
def readCommand (name : String) (words : List String) : Except UsageError Reading := do
  let (reading, _) ← readLine (commandGrammar name) .start words
  reading.settle

/-- Reads a whole line, the program's own name left out. -/
def parse (words : List String) : Except UsageError Invocation := do
  let (before, found) ← readLine mainGrammar .start words
  match found with
  | some (name, rest) =>
      if name = helpCommand then throw (answerHelp rest)
      else
        let after ← readCommand name rest
        let before ← before.settle
        return {
          command := buildCommand name after
          verbosity := (sharedValue? before after "verbose").getD defaultVerbosity
          settingsPath := sharedValue? before after "config" }
  | none =>
      let reading ← before.settle
      if reading.values.isEmpty then throw .helpForEmptyLine else throw .missingCommand

/-- How the program is called. -/
def usage : String :=
  "Order reconciliation, OCO pairs, trailing stops\n\n"
    ++ "Usage: order-keeper [OPTIONS] <COMMAND>\n\n"
    ++ "Commands:\n"
    ++ "  run             Run all daemons against paper venues until Ctrl-C\n"
    ++ "  reconcile-once  Run a single reconciliation pass and print the report\n"
    ++ "  help            Print this message or the help of the given command\n\n"
    ++ "Options:\n"
    ++ "  --verbose <VERBOSE>            Set the verbosity level [default: info]\n"
    ++ "  --config <CONFIG>              Path to a JSON configuration file\n"
    ++ "  --seed-price <SYMBOL=PRICE>    Initial paper price of a run (repeatable)\n"
    ++ "  --walk-step <WALK_STEP>        Maximum price move per second of a run [default: 0.002]\n"
    ++ "  -h, --help                     Print help\n"
    ++ "  -V, --version                  Print version\n"

end OrderKeeper.CommandLine
