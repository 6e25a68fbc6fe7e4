import CallAtlas.Resolution

/-!
# Commands and their options

Three commands with the options that each of them takes. An option has a long name, perhaps a
letter, and perhaps a value: a text, or a 32-bit word in decimal digits.
-/

namespace CallAtlas.CommandLine

/-- The commands (`Commands`). -/
inductive CommandName where
  | resolve
  | info
  | serve
  deriving DecidableEq, Repr

/-- An option of a command (`ResolveArgs`, `InfoArgs`, `ServeArgs`, `WorkspaceArgs`). -/
inductive Switch where
  /-- The path of the clicked file. -/
  | path
  /-- The line of the click. -/
  | line
  /-- The clicked identifier. -/
  | identifier
  /-- The name of a project. -/
  | project
  /-- Asks for a value instead of text. -/
  | json
  /-- How much is logged. -/
  | logLevel
  /-- The root of the workspace. -/
  | root
  /-- How far below a click its entry may stand. -/
  | tolerance
  /-- Asks for help. -/
  | help
  deriving DecidableEq, Repr

/-- What an option takes. -/
inductive Operand where
  | nothing
  | text
  | word
  deriving DecidableEq, Repr

/-- The word in the arguments that gives the command. -/
def CommandName.text : CommandName → String
  | .resolve => "resolve"
  | .info => "info"
  | .serve => "serve"

namespace Switch

def long : Switch → String
  | .path => "path"
  | .line => "line"
  | .identifier => "identifier"
  | .project => "project"
  | .json => "json"
  | .logLevel => "log-level"
  | .root => "root"
  | .tolerance => "max-line-error"
  | .help => "help"

def letter? : Switch → Option Char
  | .path => some 'p'
  | .line => some 'l'
  | .identifier => some 'i'
  | .project => some 'P'
  | .root => some 'r'
  | .help => some 'h'
  | .json | .logLevel | .tolerance => none

/-- What the option takes. -/
def operand : Switch → Operand
  | .json | .help => .nothing
  | .line | .tolerance => .word
  | .path | .identifier | .project | .logLevel | .root => .text

end Switch

namespace CommandName

def all : List CommandName := [resolve, info, serve]

/-- The command that a word gives. -/
def ofText? (word : String) : Option CommandName :=
  all.find? fun name => name.text == word

def required : CommandName → List Switch
  | .resolve => [.path, .line, .identifier]
  | .info => [.project]
  | .serve => []

def allowed : CommandName → List Switch
  | .resolve | .info => [.json, .logLevel, .root, .tolerance, .help]
  | .serve => [.logLevel, .root, .tolerance, .help]

/-- All options of a command. -/
def switches (name : CommandName) : List Switch :=
  name.required ++ name.allowed

end CommandName

/-- Reads the word that an option takes. A sign is allowed in front; behind a minus sign only zero
is no less than zero. -/
def readWordOperand? (s : List Char) : Option UInt32 :=
  match s with
  | '-' :: digits => if Text.numeralValue? digits = some 0 then some 0 else none
  | _ => Text.readWord? s

/-- Whether an option takes the text for its value. -/
def Switch.accepts (switch : Switch) (value : String) : Bool :=
  switch.operand != .word || (readWordOperand? value.toList).isSome

end CallAtlas.CommandLine
