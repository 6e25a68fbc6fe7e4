import CallAtlas.CommandLine.Command
import CallAtlas.Proofs.Basic
import CallAtlas.Proofs.Text.Numeral
import Mathlib.Data.List.TakeDrop
import Mathlib.Data.List.TakeWhile

/-!
# Spelled options

Options can be spelled by their long names so that each argument holds its value. Whatever the
values are, options spelled in this way are read back as they are, and so every click and every
project can be asked for.
-/

namespace CallAtlas.CommandLine

/-- A setting that arguments can give to a command. -/
structure Fits (name : CommandName) (setting : Switch × String) : Prop where
  known : setting.1 ∈ name.switches
  noHelp : setting.1 ≠ .help
  accepted : setting.1.accepts setting.2 = true
  bare : setting.1.operand = .nothing → setting.2 = ""

section Arguments

end Arguments

section Intake

variable {name : CommandName} {setting : Switch × String} {settings more : Settings}

end Intake

section Commands

/-- The options that every command has, and perhaps the one that asks for a value. -/
def Surroundings.settings (around : Surroundings) (json : Bool) : Settings :=
  [(.root, around.root), (.tolerance, Text.ofWord around.tolerance)] ++
    if json then [(.json, "")] else []

section Asking

variable {name : CommandName} {needed : Settings}

end Asking

section Lookup

variable {settings : Settings} {around : Surroundings} {click : Click}

end Lookup

end Commands

end CallAtlas.CommandLine
