import CallAtlas.Json.Record
import CallAtlas.Navigator
import CallAtlas.Report.Link
import CallAtlas.Server.Response

/-!
# Methods

What a request can ask for (`handle_request`): to resolve a click, to go from a row of a rendered
report to its call site, for the counts of a graph, or for a sign of life. Names and parameters are
decoded first, and only then is the work done.
-/

namespace CallAtlas

/-- How a `ClickEvent` is written. -/
def Click.record : Record Click where
  name := "ClickEvent"
  fields := ["path", "line", "identifier"]
  required := 3
  fieldOf := id
  blank := ⟨"", 0, ""⟩
  read
    | "path", value, click => return { click with path := ← Decoder.string value }
    | "line", value, click => return { click with line := ← Decoder.word value }
    | "identifier", value, click => return { click with identifier := ← Decoder.string value }
    | _, _, click => return click

/-- A click on a row of a rendered report (`OpenCallerParams`). -/
structure RowClick where
  text : String
  row : Nat
  selection : Option Selection
  deriving DecidableEq, Repr

/-- A range of columns, written as a list of two. -/
def Selection.decode : Decoder Selection := fun value =>
  (Decoder.pair Decoder.word value).map fun (first, last) => ⟨first, last⟩

def RowClick.record : Record RowClick where
  name := "OpenCallerParams"
  fields := ["text", "row", "selection"]
  required := 2
  fieldOf := id
  blank := ⟨"", 0, none⟩
  read
    | "text", value, click => return { click with text := ← Decoder.string value }
    | "row", value, click => return { click with row := ← Decoder.size value }
    | "selection", value, click =>
      return { click with selection := ← Decoder.optional Selection.decode value }
    | _, _, click => return click

/-- The record that names a project (`InfoParams`). -/
def projectRecord : Record String where
  name := "InfoParams"
  fields := ["project"]
  required := 1
  fieldOf := id
  blank := ""
  read
    | "project", value, _ => Decoder.string value
    | _, _, project => return project

/-- What a request asks for. -/
inductive Errand where
  | resolve (click : Click)
  | openCaller (click : RowClick)
  | info (project : String)
  | ping
  deriving DecidableEq, Repr

/-- Decodes parameters that must be present (`parse_params`). -/
def decodeParams {α : Type} (decode : Decoder α) : Option Json → Except RequestFault α
  | none => .error .missingParams
  | some params =>
    match decode params with
    | .ok a => .ok a
    | .error reason => .error (.wrongParams reason)

namespace Errand

/-- The errand of a method and its parameters (`handle_request`, as far as it decodes). -/
def ofMethod? (method : String) (params : Option Json) : Except RequestFault Errand :=
  match method with
  | "resolve" => (decodeParams Click.record.decode params).map resolve
  | "openCaller" => (decodeParams RowClick.record.decode params).map openCaller
  | "info" => (decodeParams projectRecord.decode params).map info
  | "ping" => .ok ping
  | _ => .error (.unknownMethod method)

/-- An answer to a click as the result of a request: its value with its text. -/
def answerResult (answer : Answer) : Json :=
  .object (answer.members ++ [("text", .string answer.render)])

/-- The counts of a graph as the result of a request, with the projects that are resident now. -/
def infoResult (project : String) (stats : Stats) (cache : Cache) : Json :=
  .object
    [("project", .string project), ("stats", stats.toJson),
     ("residentProjects", .array (cache.residentProjects.map Json.string))]

def outcome {α : Type} (encode : α → Json) : Except Failure α → Except RequestFault Json
  | .ok a => .ok (encode a)
  | .error failure => .error (.failed failure)

/-- The project whose graph is needed. -/
def project? (navigator : Navigator) : Errand → Option String
  | .resolve click => (navigator.workspace.query click).toOption.map Query.project
  | .info project => if isProjectName project then some project else none
  | .openCaller _ | .ping => none

/-- Does what is asked (`handle_request` behind the parameters). -/
def run (navigator : Navigator) (load : Loader) (cache : Cache) :
    Errand → Visit (Except RequestFault Json)
  | .resolve click => (navigator.resolveClick load cache click).map (outcome answerResult)
  | .openCaller click =>
    .idle cache
      (.ok (Json.optional CallerLink.toJson
        (parseCallerClick click.text click.row click.selection)))
  | .info project =>
    let visit := Navigator.graphFor load cache project
    visit.map (outcome fun graph => infoResult project graph.stats visit.cache)
  | .ping => .idle cache (.ok (.object []))

end Errand

end CallAtlas
