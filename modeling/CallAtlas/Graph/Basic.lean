import CallAtlas.Failure
import CallAtlas.Graph.Artifact

/-!
# Call graphs

The call graph of one project (`CallGraph`): entries under composite keys, built once from an
artifact and never changed. Lookups are exact; keys are kept as they are written.
-/

namespace CallAtlas

/-- The entries of a project under their keys, in the order of the artifact. -/
structure CallGraph where
  entries : List (String × Entry)
  deriving DecidableEq, Repr

/-- Summary counts of a call graph (`GraphStats`). -/
structure Stats where
  /-- All entries. -/
  entries : Nat
  /-- Entries with call sites. -/
  callers : Nat
  /-- Entries with definitions. -/
  definitions : Nat
  /-- Entries with neither. -/
  empty : Nat
  /-- Distinct paths of the keys that can be taken apart. -/
  files : Nat
  deriving DecidableEq, Repr

def Stats.toJson (stats : Stats) : Json :=
  .object
    [("entries", .nat stats.entries), ("callerEntries", .nat stats.callers),
     ("definitionEntries", .nat stats.definitions), ("emptyEntries", .nat stats.empty),
     ("files", .nat stats.files)]

namespace Target

def hasCallers : Target → Bool
  | .callers _ => true
  | _ => false

def hasDefinitions : Target → Bool
  | .definitions _ => true
  | _ => false

def isEmpty : Target → Bool
  | .empty => true
  | _ => false

end Target

namespace CallGraph

def empty : CallGraph := ⟨[]⟩

/-- The field of an artifact that holds the entries (`ARTIFACT_GRAPH_FIELD`). -/
def artifactField : String := "call_graph"

/-- The failure of a value that is no object where one is needed, by its kind (`json_kind`). -/
def notObject (context : String) (value : Json) : Failure :=
  .malformed context ("expected an object, found " ++ value.kind)

/-- The entries of the members in order (the loop of `from_value`); the first that does not decode
decides. -/
def decodeEntries : List (String × Json) → Except Failure (List (String × Entry))
  | [] => .ok []
  | (key, value) :: rest =>
    match Entry.decode key value with
    | .error mismatch => .error (.malformed key mismatch.message)
    | .ok entry => (decodeEntries rest).map ((key, entry) :: ·)

/-- The graph of the value that holds the entries (`from_value`); null holds none. -/
def ofEntries : Json → Except Failure CallGraph
  | .null => .ok empty
  | .object members => (decodeEntries members).map CallGraph.mk
  | value => .error (notObject artifactField value)

/-- The graph of an artifact (`from_artifact`); without the field it has no entries. -/
def ofArtifact : Json → Except Failure CallGraph
  | .object members =>
    match members.lookup artifactField with
    | some value => ofEntries value
    | none => .ok empty
  | value => .error (notObject "artifact" value)

/-- The entry under a key (`get`). -/
def get? (graph : CallGraph) (key : String) : Option Entry :=
  graph.entries.lookup key

/-- The entry of a path, a line and an identifier (`lookup`). -/
def lookup? (graph : CallGraph) (path : String) (line : UInt32) (identifier : String) :
    Option Entry :=
  graph.get? (KeyParts.key ⟨path, line, identifier⟩)

/-- The number of entries (`len`). -/
def size (graph : CallGraph) : Nat :=
  graph.entries.length

/-- The paths of the keys that can be taken apart, each once. -/
def files (graph : CallGraph) : List String :=
  (graph.entries.filterMap fun entry => (KeyParts.ofKey? entry.1).map KeyParts.path).eraseDups

/-- The counts of a graph (`stats`). -/
def stats (graph : CallGraph) : Stats where
  entries := graph.size
  callers := graph.entries.countP fun entry => entry.2.target.hasCallers
  definitions := graph.entries.countP fun entry => entry.2.target.hasDefinitions
  empty := graph.entries.countP fun entry => entry.2.target.isEmpty
  files := graph.files.length

end CallGraph

end CallAtlas
