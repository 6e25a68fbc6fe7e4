import CallAtlas.Path
import CallAtlas.Report.Basic
import CallAtlas.Resolution

/-!
# Answers to clicks

A resolved click with the places where an editor should go, as text and as a value.
-/

namespace CallAtlas

/-- Where an editor should go for a definition (`NavigationTarget`). -/
structure NavigationTarget where
  path : Path
  row : UInt32
  column : UInt32
  endColumn : UInt32
  deriving DecidableEq, Repr

/-- A resolved click (`ClickResolution`). -/
structure Answer where
  query : Query
  outcome : Outcome
  /-- The places to go to: one for each location of a definition. -/
  targets : List NavigationTarget
  deriving DecidableEq, Repr

/-- The last column of the mark on the row of a definition, whose span no artifact records
(`DEFINITION_END_COLUMN`). -/
def definitionEndColumn : UInt32 := 70

/-- The place to go to for a row of a file. -/
def NavigationTarget.ofRow (path : Path) (row : UInt32) : NavigationTarget :=
  ⟨path, row, 0, definitionEndColumn⟩

/-- The row of a place to go to (`format_definition`). -/
def definitionRow (identifier : String) (target : NavigationTarget) : String :=
  "Definition of " ++ identifier ++ ": " ++ target.path.text ++ ":" ++ Text.ofWord target.row

/-- The row that stands for no answer (`format_not_found`). -/
def notFoundRow (identifier : String) : String :=
  "No call graph entry for " ++ identifier

/-- The row of a finding (`format_diagnostic`). -/
def Diagnostic.row (diagnostic : Diagnostic) : String :=
  "warning: " ++ diagnostic.message

namespace Answer

/-- The rows of the answer itself. -/
def resolutionRows (answer : Answer) : List String :=
  match answer.outcome.resolution with
  | .callers identifier sites => (CallerReport.ofSites identifier sites).rows
  | .definition identifier _ => answer.targets.map (definitionRow identifier)
  | .notFound identifier => [notFoundRow identifier]

/-- The text of a resolved click (`format_resolution`): the answer and then its diagnostics, a row
each. -/
def render (answer : Answer) : String :=
  String.join
    ((answer.resolutionRows ++ answer.outcome.diagnostics.map Diagnostic.row).map (· ++ "\n"))

end Answer

def NavigationTarget.toJson (target : NavigationTarget) : Json :=
  .object
    [("path", .string target.path.text), ("row", .word target.row),
     ("column", .word target.column), ("endColumn", .word target.endColumn)]

/-- The members of an answer as a value. -/
def Answer.members (answer : Answer) : List (String × Json) :=
  [("query", answer.query.toJson)] ++ answer.outcome.members ++
    [("targets", .array (answer.targets.map NavigationTarget.toJson))]

def Answer.toJson (answer : Answer) : Json :=
  .object answer.members

end CallAtlas
