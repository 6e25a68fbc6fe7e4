import CallAtlas.CommandLine.Option

/-!
# Arguments

How arguments become the options of a command. They are taken from the left. An option may hold
its value, as in `--line=1`, `-l=1` and `-l1`, or else the next argument is its value, unless that
looks like an option itself. A value that stands apart is looked at when the next option follows
or the arguments end, so that an argument that nobody knows is reported before a value in front of
it that is wrong.
-/

namespace CallAtlas.CommandLine

/-- Why arguments are no command. -/
inductive Misuse where
  /-- There are no arguments. -/
  | noArguments
  /-- The command is not known. -/
  | unknownCommand
  /-- An argument is not known, or not wanted. -/
  | unknownArgument
  /-- An option that must be given is absent. -/
  | missingOption
  /-- An option is given twice. -/
  | repeatedOption
  /-- The value of an option is not of its form. -/
  | badValue
  /-- An option that takes a value has none. -/
  | missingValue
  /-- An option that takes no value has one. -/
  | unwantedValue
  deriving DecidableEq, Repr

/-- Why no command is carried out. -/
inductive Halt where
  /-- Help is asked for. -/
  | help
  /-- The version is asked for. -/
  | version
  /-- The arguments are no command. -/
  | misuse (reason : Misuse)
  deriving DecidableEq, Repr

/-- What an argument looks like. -/
inductive Argument where
  /-- Two dashes: all behind it is no option. -/
  | divider
  /-- An option by its long name, and the value it holds. -/
  | long (name : List Char) (value : Option (List Char))
  /-- Options by their letters, the last perhaps with its value. -/
  | letters (letters : List Char)
  /-- Neither. -/
  | word
  deriving DecidableEq, Repr

/-- The text before the first equals sign, and the text behind it. -/
def splitEquals (s : List Char) : List Char × Option (List Char) :=
  match s.span (· ≠ '=') with
  | (name, []) => (name, none)
  | (name, _ :: value) => (name, some value)

/-- What an argument looks like. -/
def Argument.ofText (argument : String) : Argument :=
  match argument.toList with
  | ['-', '-'] => .divider
  | '-' :: '-' :: rest => .long (splitEquals rest).1 (splitEquals rest).2
  | '-' :: c :: rest => .letters (c :: rest)
  | _ => .word

/-- Options and their values, in the order in which they were settled. -/
abbrev Settings := List (Switch × String)

/-- What was taken from the arguments so far. -/
structure Intake where
  settings : Settings := []
  /-- An option that is not settled yet, with its value if that was taken. -/
  open? : Option (Switch × Option String) := none

namespace Intake

/-- Settles an option with a value. -/
def settle (intake : Intake) (switch : Switch) (value : String) : Except Halt Intake :=
  if intake.settings.any fun setting => setting.1 = switch then
    .error (.misuse .repeatedOption)
  else if switch.accepts value then .ok ⟨intake.settings ++ [(switch, value)], none⟩
  else .error (.misuse .badValue)

def close (intake : Intake) : Except Halt Intake :=
  match intake.open? with
  | none => .ok intake
  | some (_, none) => .error (.misuse .missingValue)
  | some (switch, some value) => intake.settle switch value

/-- Takes an option that has no value. -/
def takeFlag (intake : Intake) (switch : Switch) : Except Halt Intake := do
  let intake ← intake.close
  if switch = .help then throw .help else intake.settle switch ""

/-- Takes an option that has a value, which it may hold. -/
def takeOption (intake : Intake) (switch : Switch) (value : Option (List Char)) :
    Except Halt Intake := do
  let intake ← intake.close
  match value with
  | some value => intake.settle switch (String.ofList value)
  | none => return { intake with open? := some (switch, none) }

def heldValue : List Char → Option (List Char)
  | [] => none
  | '=' :: value => some value
  | value => some value

/-- Takes options by their letters. -/
def takeLetters (switches : List Switch) (intake : Intake) : List Char → Except Halt Intake
  | [] => .ok intake
  | c :: rest =>
    match switches.find? fun switch => switch.letter? == some c with
    | none => .error (.misuse .unknownArgument)
    | some switch =>
      if switch.operand = .nothing then do
        let intake ← intake.takeFlag switch
        takeLetters switches intake rest
      else intake.takeOption switch (heldValue rest)

def takeLong (switches : List Switch) (intake : Intake) (name : List Char)
    (value : Option (List Char)) : Except Halt Intake :=
  match switches.find? fun switch => switch.long == String.ofList name with
  | none => .error (.misuse .unknownArgument)
  | some switch =>
    if switch.operand ≠ .nothing then intake.takeOption switch value
    else if value.isSome then .error (.misuse .unwantedValue)
    else intake.takeFlag switch

/-- Takes an argument that is no option: it is the value of the option in front of it. -/
def takeWord (intake : Intake) (word : String) : Except Halt Intake :=
  match intake.open? with
  | some (switch, none) => .ok { intake with open? := some (switch, some word) }
  | _ => .error (.misuse .unknownArgument)

/-- Takes all arguments. Nothing may follow a divider. -/
def takeAll (switches : List Switch) (intake : Intake) : List String → Except Halt Intake
  | [] => intake.close
  | argument :: rest =>
    match Argument.ofText argument with
    | .divider => if rest.isEmpty then intake.close else .error (.misuse .unknownArgument)
    | .long name value => do
      let intake ← intake.takeLong switches name value
      takeAll switches intake rest
    | .letters letters => do
      let intake ← intake.takeLetters switches letters
      takeAll switches intake rest
    | .word => do
      let intake ← intake.takeWord argument
      takeAll switches intake rest

end Intake

/-- The options that arguments give to a command, among them all that must be given. -/
def settingsOf (name : CommandName) (arguments : List String) : Except Halt Settings := do
  let intake ← Intake.takeAll name.switches {} arguments
  if name.required.all fun switch => intake.settings.any fun setting => setting.1 = switch then
    return intake.settings
  else throw (.misuse .missingOption)

end CallAtlas.CommandLine
