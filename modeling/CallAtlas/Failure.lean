/-!
# Failures

What can go wrong between a click and its answer (`CallnavError`). Findings that belong to an
answer, such as a definition without a line, are diagnostics and no failures.
-/

namespace CallAtlas

/-- The kind of a failure of input or output, by the name that the system has for it (`ErrorKind`).
There are many, and a failure keeps its own. -/
structure ErrorKind where
  name : String
  deriving DecidableEq, Repr

/-- The kinds that are told apart where a failure is written down. -/
inductive InputKind where
  | notFound
  | permissionDenied
  | timedOut
  | invalidData
  | other
  deriving DecidableEq, Repr

def InputKind.errorKind : InputKind → ErrorKind
  | .notFound => ⟨"NotFound"⟩
  | .permissionDenied => ⟨"PermissionDenied"⟩
  | .timedOut => ⟨"TimedOut"⟩
  | .invalidData => ⟨"InvalidData"⟩
  | .other => ⟨"Other"⟩

instance : Coe InputKind ErrorKind := ⟨InputKind.errorKind⟩

/-- What a kind is written down as. -/
def ErrorKind.inputKind (kind : ErrorKind) : InputKind :=
  match kind.name with
  | "NotFound" => .notFound
  | "PermissionDenied" => .permissionDenied
  | "TimedOut" => .timedOut
  | "InvalidData" => .invalidData
  | _ => .other

instance : Coe ErrorKind InputKind := ⟨ErrorKind.inputKind⟩

/-- Why an argument is refused (`InvalidArgs`). -/
inductive Refusal where
  /-- An identifier without a visible character. -/
  | blankIdentifier
  /-- The line zero. -/
  | lineZero
  /-- A project name that is no single directory name. -/
  | projectName (name : String)
  /-- A reason of a caller's own. -/
  | other (message : String)
  deriving DecidableEq, Repr

def Refusal.message : Refusal → String
  | .blankIdentifier => "identifier must not be empty"
  | .lineZero => "line numbers are 1-based"
  | .projectName name => "invalid project name: '" ++ name ++ "'"
  | .other message => message

/-- What can go wrong while a graph is loaded or a click is answered (`CallnavError`). -/
inductive Failure where
  /-- Input or output failed. -/
  | input (kind : ErrorKind) (message : String)
  /-- A text outside of an artifact is no JSON. -/
  | json (message : String)
  /-- An artifact does not have the form of a call graph, at the place that the context names. -/
  | malformed (context message : String)
  /-- The artifact of a project cannot be had. It may appear later. -/
  | unavailable (project path message : String)
  /-- A clicked file is not under the source root of its project. -/
  | outsideSources (path root : String)
  /-- A clicked file belongs to no project. -/
  | unknownProject (path : String)
  /-- An argument is refused. -/
  | refused (reason : Refusal)
  /-- A lock was left by someone who failed. -/
  | poisoned (message : String)
  deriving DecidableEq, Repr

namespace Failure

/-- The text that is shown for a failure. -/
def message : Failure → String
  | .input _ message => "I/O error: " ++ message
  | .json message => "JSON error: " ++ message
  | .malformed context message => "Malformed call graph (" ++ context ++ "): " ++ message
  | .unavailable project _ message =>
    "Failed to load call graph for project '" ++ project ++ "': " ++ message
  | .outsideSources path root => "Path '" ++ path ++ "' is not under source root '" ++ root ++ "'"
  | .unknownProject path => "Cannot determine project for path '" ++ path ++ "'"
  | .refused reason => reason.message
  | .poisoned message => "Lock poisoned: " ++ message

/-- Whether the same click may succeed later (`is_retryable`). -/
def isRetryable : Failure → Bool
  | .unavailable .. | .input .. => true
  | _ => false

/-- The failure as it is handed to those who waited for the attempt that failed (`duplicate`): a
text that is no JSON is a malformed artifact to them, and every other failure is the same. -/
def shared : Failure → Failure
  | .json message => .malformed "artifact" message
  | failure => failure

end Failure

end CallAtlas
