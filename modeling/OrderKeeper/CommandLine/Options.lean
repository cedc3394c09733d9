/-!
Contract: options and commands on a command line.

Owns: which words of a line are options, their values and the command, and the causes
for which a line is refused.

An option is written `--name value` or `--name=value`.  Its values are checked when the
next option, the command or the end of the line shows that they are complete, so that
an unknown word after a bad value is what gets reported.
-/

set_option autoImplicit false

namespace OrderKeeper.CommandLine

/-- Why a command line is not carried out. -/
inductive UsageError where
  | invalidValue
  | unknownArgument
  | invalidCommand
  | valueRefused
  | tooManyValues
  | repeatedOption
  | missingCommand
  | help
  | helpForEmptyLine
  | version
deriving DecidableEq, Repr

def UsageError.message : UsageError → String
  | .invalidValue => "a value is required for the last option"
  | .unknownArgument => "unexpected argument found"
  | .invalidCommand => "unrecognized subcommand"
  | .valueRefused => "invalid value for an option"
  | .tooManyValues => "unexpected value for an option that takes none"
  | .repeatedOption => "an option cannot be used multiple times"
  | .missingCommand => "a subcommand is required but was not given"
  | .help | .helpForEmptyLine => "help requested"
  | .version => "version requested"

/-- An option that takes one value. -/
structure OptionRule where
  name : String
  repeatable : Bool
  accepts : String → Bool

/-- The options and commands that may stand at one place of a line. -/
structure Grammar where
  options : List OptionRule
  commands : List String
  hasVersion : Bool

/-- What has been read of a line. -/
structure Reading where
  /-- Checked values by option, in order. -/
  values : List (String × String)
  /-- The last option and its values, not checked yet. -/
  pending : Option (OptionRule × List String)
  /-- Whether the next word is the value of the last option. -/
  awaitsValue : Bool
  /-- Whether every further word is an operand. -/
  onlyOperands : Bool

def Reading.start : Reading := ⟨[], none, false, false⟩

/-- The values of an option in the order in which they stand on the line. -/
def Reading.valuesOf (reading : Reading) (name : String) : List String :=
  reading.values.filterMap fun entry => if entry.1 = name then some entry.2 else none

/-- Checks the values of the last option. -/
def Reading.settle (reading : Reading) : Except UsageError Reading :=
  match reading.pending with
  | none => .ok reading
  | some (_, []) => .error .invalidValue
  | some (rule, value :: _) =>
      if !rule.repeatable && !(reading.valuesOf rule.name).isEmpty then .error .repeatedOption
      else if !rule.accepts value then .error .valueRefused
      else
        .ok
          { reading with
            values := reading.values ++ [(rule.name, value)]
            pending := none
            awaitsValue := false }

/-- A word of the line, as its first characters tell. -/
inductive Word where
  | endOfOptions
  | long (name : String) (value : Option String)
  | short (letters : List Char)
  | operand
deriving DecidableEq, Repr

def Word.ofText (text : String) : Word :=
  match text.toList with
  | ['-', '-'] => .endOfOptions
  | '-' :: '-' :: rest =>
      let name := String.ofList (rest.takeWhile (· != '='))
      match rest.dropWhile (· != '=') with
      | [] => .long name none
      | _ :: value => .long name (some (String.ofList value))
  | ['-'] => .operand
  | '-' :: letters => .short letters
  | _ => .operand

/-- Answers a request for help or for the version once the option before it is checked. -/
def Reading.interrupt {α : Type} (reading : Reading) (request : UsageError) :
    Except UsageError α :=
  match reading.settle with
  | .error cause => .error cause
  | .ok _ => .error request

/-- Reads a long option. -/
def Reading.readLong (grammar : Grammar) (reading : Reading) (name : String)
    (value : Option String) : Except UsageError Reading :=
  match grammar.options.find? fun rule => rule.name = name with
  | some rule => do
      let reading ← reading.settle
      match value with
      | some value =>
          Reading.settle { reading with pending := some (rule, [value]), awaitsValue := false }
      | none => return { reading with pending := some (rule, []), awaitsValue := true }
  | none =>
      if name = "help" ∨ (name = "version" ∧ grammar.hasVersion) then
        if value.isSome then .error .tooManyValues
        else reading.interrupt (if name = "help" then .help else .version)
      else .error .unknownArgument

/-- Reads short options, of which only requests for help and for the version exist. -/
def Reading.readShort (grammar : Grammar) (reading : Reading) :
    List Char → Except UsageError Reading
  | 'h' :: _ => reading.interrupt .help
  | 'V' :: _ => if grammar.hasVersion then reading.interrupt .version else .error .unknownArgument
  | _ => .error .unknownArgument

/-- Why a word is no operand. -/
def refuseOperand (grammar : Grammar) (reading : Reading) (word : String) : UsageError :=
  if grammar.commands.isEmpty then .unknownArgument
  else if reading.onlyOperands && grammar.commands.contains word then .unknownArgument
  else .invalidCommand

/-- Reads a line up to its command, if it has one; the words after that are left. -/
def readLine (grammar : Grammar) (reading : Reading) :
    List String → Except UsageError (Reading × Option (String × List String))
  | [] => .ok (reading, none)
  | word :: rest =>
      if reading.onlyOperands then .error (refuseOperand grammar reading word)
      else if !reading.awaitsValue && grammar.commands.contains word then
        .ok (reading, some (word, rest))
      else
        match Word.ofText word with
        | .endOfOptions => readLine grammar { reading with onlyOperands := true } rest
        | .long name value =>
            match reading.readLong grammar name value with
            | .error cause => .error cause
            | .ok reading => readLine grammar reading rest
        | .short letters =>
            match reading.readShort grammar letters with
            | .error cause => .error cause
            | .ok reading => readLine grammar reading rest
        | .operand =>
            match reading.awaitsValue, reading.pending with
            | true, some (rule, _) =>
                readLine grammar
                  { reading with pending := some (rule, [word]), awaitsValue := false } rest
            | _, _ => .error (refuseOperand grammar reading word)

end OrderKeeper.CommandLine
