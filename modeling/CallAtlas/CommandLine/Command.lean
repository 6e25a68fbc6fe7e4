import CallAtlas.CommandLine.Arguments
import CallAtlas.Navigator
import CallAtlas.Text.Lowercase

/-!
# Commands

What the arguments of the program ask for: to resolve one click, to show the counts of a graph, or
to serve requests.
-/

namespace CallAtlas.CommandLine

/-- The options that every command has (`WorkspaceArgs`). -/
structure Surroundings where
  root : String := "."
  tolerance : UInt32 := defaultTolerance
  deriving DecidableEq, Repr

/-- A command with its options (`Commands`). -/
inductive Command where
  | resolve (click : Click) (json : Bool) (logLevel : String) (around : Surroundings)
  | info (project : String) (json : Bool) (logLevel : String) (around : Surroundings)
  | serve (logLevel : String) (around : Surroundings)
  deriving DecidableEq, Repr

namespace Settings

/-- The value of an option, or the one it has if it is not given. -/
def textOr (settings : Settings) (switch : Switch) (absent : String) : String :=
  (settings.lookup switch).getD absent

/-- The word of an option, or the one it has if it is not given. -/
def wordOr (settings : Settings) (switch : Switch) (absent : UInt32) : UInt32 :=
  ((settings.lookup switch).bind fun value => readWordOperand? value.toList).getD absent

def has (settings : Settings) (switch : Switch) : Bool :=
  (settings.lookup switch).isSome

def surroundings (settings : Settings) : Surroundings :=
  ⟨textOr settings .root ".", wordOr settings .tolerance defaultTolerance⟩

def click (settings : Settings) : Click :=
  ⟨textOr settings .path "", wordOr settings .line 0, textOr settings .identifier ""⟩

end Settings

/-- The level of logging of a command that is not told one. -/
def CommandName.defaultLogLevel : CommandName → String
  | .resolve | .info => "warn"
  | .serve => "info"

namespace Command

def ofSettings (name : CommandName) (settings : Settings) : Command :=
  let logLevel := Settings.textOr settings .logLevel name.defaultLogLevel
  let around := Settings.surroundings settings
  let json := Settings.has settings .json
  match name with
  | .resolve => .resolve (Settings.click settings) json logLevel around
  | .info => .info (Settings.textOr settings .project "") json logLevel around
  | .serve => .serve logLevel around

def helpWord : String := "help"

/-- Whether a word stands in the place of a command. -/
def isCommandWord (word : String) : Bool :=
  word == helpWord || (CommandName.ofText? word).isSome

/-- Help on the command that the words behind `help` name. -/
def helpOn (words : List String) : Halt :=
  match words with
  | [] => .help
  | [word] => if isCommandWord word then .help else .misuse .unknownCommand
  | _ => .misuse .unknownCommand

/-- What a first argument asks for that is no command. -/
def haltOf (argument : String) (rest : List String) : Halt :=
  match Argument.ofText argument with
  | .divider =>
    match rest with
    | [] => .misuse .noArguments
    | word :: _ =>
      .misuse (if isCommandWord word then .unknownArgument else .unknownCommand)
  | .long name value =>
    let name := String.ofList name
    if name ≠ "help" ∧ name ≠ "version" then .misuse .unknownArgument
    else if value.isSome then .misuse .unwantedValue
    else if name = "help" then .help
    else .version
  | .letters letters =>
    match letters.head? with
    | some 'h' => .help
    | some 'V' => .version
    | _ => .misuse .unknownArgument
  | .word => .misuse .unknownCommand

/-- The command that arguments ask for (`Cli::parse`). -/
def ofArguments : List String → Except Halt Command
  | [] => .error (.misuse .noArguments)
  | argument :: rest =>
    match CommandName.ofText? argument with
    | some name => (settingsOf name rest).map (ofSettings name)
    | none =>
      if argument = helpWord then .error (helpOn rest) else .error (haltOf argument rest)

end Command

/-- The levels of logging that have names, but for the one that stands for all other names. -/
def namedLogLevels : List String := ["error", "warn", "debug", "trace"]

/-- The filter of a level of logging, in upper case or lower case (`log_directive`); what is no
level means `info`. -/
def logFilter (level : String) : String :=
  let level := Text.lowercase level
  if level ∈ namedLogLevels then level else "info"

end CallAtlas.CommandLine
