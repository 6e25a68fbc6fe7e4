import CallAtlas.CommandLine.Command
import CallAtlas.Server.Basic

/-!
# What commands do

A command reads artifacts and perhaps a stream of requests, and comes to an exit code, the text of
its output, and the line of its error, if there is one. What help says is not laid down here, nor
which responses a server prints before its stream breaks.
-/

namespace CallAtlas.CommandLine

/-- What a command comes to. -/
structure Result where
  exitCode : UInt32
  output : String := ""
  /-- The line that tells a failure. -/
  errorLine : Option String := none
  deriving DecidableEq, Repr

def versionText : String := "callnav 0.1.0\n"

/-- The result of a command that may fail (`run`). -/
def Result.of : Except Failure String → Result
  | .ok output => { exitCode := 0, output }
  | .error failure =>
    { exitCode := 1, errorLine := some ("Error: " ++ failure.message ++ "\n") }

/-- The result of arguments that are no command, or that ask for none. -/
def Halt.result : Halt → Result
  | .help => { exitCode := 0 }
  | .version => { exitCode := 0, output := versionText }
  | .misuse _ => { exitCode := 2 }

def Surroundings.workspace (around : Surroundings) : Workspace :=
  ⟨⟨around.root⟩⟩

/-- The navigator of a command (`navigator`). -/
def Surroundings.navigator (around : Surroundings) : Navigator :=
  ⟨around.workspace, around.tolerance⟩

def answerText (json : Bool) (answer : Answer) : String :=
  if json then answer.toJson.pretty ++ "\n" else answer.render

def statsRows (project : String) (artifact : Path) (stats : Stats) : List String :=
  ["Project:   " ++ project,
   "Artifact:  " ++ artifact.text,
   "Entries:   " ++ Text.ofNat stats.entries ++ " (" ++ Text.ofNat stats.callers ++
     " with callers, " ++ Text.ofNat stats.definitions ++ " with definitions, " ++
     Text.ofNat stats.empty ++ " empty)",
   "Files:     " ++ Text.ofNat stats.files]

/-- The counts of a graph as a value, its keys in ascending order. -/
def statsJson (project : String) (artifact : Path) (stats : Stats) : Json :=
  Json.canonical <|
    .object
      [("project", .string project), ("artifact", .string artifact.text),
       ("stats", stats.toJson)]

def statsText (json : Bool) (project : String) (artifact : Path) (stats : Stats) : String :=
  if json then (statsJson project artifact stats).pretty ++ "\n"
  else String.join ((statsRows project artifact stats).map (· ++ "\n"))

def responseText (responses : List Response) : String :=
  String.join (responses.map fun response => response.line ++ "\n")

/-- What a server prints for a stream, if it comes to the end of it. A server whose stream breaks
may have printed responses before; its failure is all that stands here. -/
def serviceText (service : Service) : Except Failure String :=
  match service.failure? with
  | none => .ok (responseText service.sent)
  | some failure => .error failure

namespace Command

def around : Command → Surroundings
  | .resolve _ _ _ around | .info _ _ _ around | .serve _ around => around

/-- The project whose graph a command needs, other than for requests. -/
def project? (command : Command) : Option String :=
  match command with
  | .resolve click _ _ _ => (Errand.resolve click).project? command.around.navigator
  | .info project _ _ _ => (Errand.info project).project? command.around.navigator
  | .serve _ _ => none

/-- The output of a command (`cmd_resolve`, `cmd_info`, `cmd_serve`), with files to read artifacts
from and a stream of requests. -/
def output (command : Command) (read : FileReader) (requests : List UInt8) :
    Except Failure String :=
  let workspace := command.around.workspace
  let navigator := command.around.navigator
  let load := Loader.ofFiles workspace read
  match command with
  | .resolve click json _ _ =>
    (navigator.resolveClick load .empty click).result.map (answerText json)
  | .info project json _ _ =>
    (Navigator.graphFor load .empty project).result.map fun graph =>
      statsText json project (workspace.artifactPath project) graph.stats
  | .serve _ _ => serviceText (navigator.serve load .empty requests).result

end Command

/-- What the arguments of the program come to (`run`). -/
def run (arguments : List String) (read : FileReader) (requests : List UInt8) : Result :=
  match Command.ofArguments arguments with
  | .ok command => .of (command.output read requests)
  | .error halt => halt.result

end CallAtlas.CommandLine
