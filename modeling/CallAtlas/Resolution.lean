import CallAtlas.Graph.Basic

/-!
# Resolutions

A click asks for an identifier on a line of a file. Artifacts record the first statement of a
method and not the line of its head, so the entry of a click stands on its line or a few lines
below. Of all entries in that window the one on the lowest line is taken; two definitions of one
name inside a window resolve to the first of them.
-/

namespace CallAtlas

/-- A click as a lookup (`ClickQuery`): its file is relative to the source root of its project. -/
structure Query where
  project : String
  relativePath : String
  clickedLine : UInt32
  identifier : String
  deriving DecidableEq, Repr

/-- A definition with its line (`DefinitionLocation`). -/
structure Location where
  path : String
  line : UInt32
  deriving DecidableEq, Repr

/-- The answer to a query (`Resolution`). -/
inductive Resolution where
  /-- The places that call the identifier. -/
  | callers (identifier : String) (sites : List CallSite)
  /-- The places that define it, which may be none if no candidate has a line. -/
  | definition (identifier : String) (locations : List Location)
  /-- Nothing is known. -/
  | notFound (identifier : String)
  deriving DecidableEq, Repr

/-- A finding that accompanies an answer (`Diagnostic`). -/
inductive Diagnostic where
  /-- No entry stands in the window of the click. -/
  | lineDriftExceeded (identifier : String) (clickedLine tolerance : UInt32)
  /-- A candidate has no line. -/
  | unresolvableLine (identifier path : String)
  deriving DecidableEq, Repr

/-- An answer, the line of the entry it was taken from, and what was found on the way
(`ResolveOutcome`). -/
structure Outcome where
  resolution : Resolution
  matchedLine : Option UInt32
  diagnostics : List Diagnostic
  deriving DecidableEq, Repr

def Diagnostic.message : Diagnostic → String
  | .lineDriftExceeded _ _ tolerance =>
    "the method def line number is off by more than MAX_LINE_ERROR: " ++ Text.ofWord tolerance
  | .unresolvableLine identifier path =>
    "could not look up method definition: " ++ identifier ++ " (" ++ path ++ ")"

/-- How far below a click its entry may stand, unless it is said otherwise (`MAX_LINE_ERROR`). -/
def defaultTolerance : UInt32 := 10

/-- The last line of the window of a click, which ends with the lines at the latest. -/
def lastLine (clicked tolerance : UInt32) : UInt32 :=
  if clicked.toNat + tolerance.toNat < UInt32.size then clicked + tolerance else 0xFFFFFFFF

/-- The line of a key that has the path and the identifier given. -/
def lineUnder? (path identifier key : String) : Option UInt32 := do
  let behind ← List.isPrefixOf? (path.toList ++ [':']) key.toList
  let numeral := behind.take (behind.length - (identifier.length + 1))
  let line ← Text.readWord? numeral
  if KeyParts.key ⟨path, line, identifier⟩ = key then some line else none

/-- The one of two entries that stands on the lower line; the first of two on the same. -/
def lowerEntry (a b : UInt32 × Entry) : UInt32 × Entry :=
  if b.1 < a.1 then b else a

/-- The first entry on the lowest line. -/
def lowest? : List (UInt32 × Entry) → Option (UInt32 × Entry)
  | [] => none
  | entry :: rest => some (rest.foldl lowerEntry entry)

namespace CallGraph

/-- The entries of a path and an identifier, with their lines. -/
def entriesUnder (graph : CallGraph) (path identifier : String) : List (UInt32 × Entry) :=
  graph.entries.filterMap fun (key, entry) =>
    (lineUnder? path identifier key).map fun line => (line, entry)

end CallGraph

/-- The entry on the lowest line of the window of a query, with its line (`find_entry`). -/
def findEntry (tolerance : UInt32) (query : Query) (graph : CallGraph) :
    Option (UInt32 × Entry) :=
  let last := lastLine query.clickedLine tolerance
  lowest? <|
    (graph.entriesUnder query.relativePath query.identifier).filter fun entry =>
      query.clickedLine ≤ entry.1 && entry.1 ≤ last

/-- A definition as a location, if its line is known. -/
def Definition.location? (definition : Definition) : Option Location :=
  definition.line.map fun line => ⟨definition.path, line⟩

/-- The answer of an entry to a query for an identifier. -/
def Target.resolution (target : Target) (identifier : String) : Resolution :=
  match target with
  | .callers sites => .callers identifier sites
  | .definitions candidates => .definition identifier (candidates.filterMap Definition.location?)
  | .empty => .notFound identifier

/-- What is to be said of an entry: each candidate without a line. -/
def Target.diagnostics (target : Target) (identifier : String) : List Diagnostic :=
  match target with
  | .definitions candidates =>
    (candidates.filter fun candidate => candidate.line.isNone).map fun candidate =>
      .unresolvableLine identifier candidate.path
  | _ => []

/-- The answer to a query (`Resolver::resolve`). -/
def resolve (tolerance : UInt32) (query : Query) (graph : CallGraph) : Outcome :=
  match findEntry tolerance query graph with
  | none =>
    { resolution := .notFound query.identifier
      matchedLine := none
      diagnostics := [.lineDriftExceeded query.identifier query.clickedLine tolerance] }
  | some (line, entry) =>
    { resolution := entry.target.resolution query.identifier
      matchedLine := some line
      diagnostics := entry.target.diagnostics query.identifier }

/-! ## As values -/

def Query.toJson (query : Query) : Json :=
  .object
    [("project", .string query.project), ("relativePath", .string query.relativePath),
     ("clickedLine", .word query.clickedLine), ("identifier", .string query.identifier)]

def Location.toJson (location : Location) : Json :=
  .object [("path", .string location.path), ("line", .word location.line)]

def Resolution.toJson : Resolution → Json
  | .callers identifier sites =>
    .object
      [("kind", .string "callers"), ("identifier", .string identifier),
       ("callSites", .array (sites.map CallSite.toJson))]
  | .definition identifier locations =>
    .object
      [("kind", .string "definition"), ("identifier", .string identifier),
       ("locations", .array (locations.map Location.toJson))]
  | .notFound identifier =>
    .object [("kind", .string "notFound"), ("identifier", .string identifier)]

def Diagnostic.toJson : Diagnostic → Json
  | .lineDriftExceeded identifier clickedLine tolerance =>
    .object
      [("kind", .string "lineDriftExceeded"), ("identifier", .string identifier),
       ("clickedLine", .word clickedLine), ("maxLineError", .word tolerance)]
  | .unresolvableLine identifier path =>
    .object
      [("kind", .string "unresolvableDefinitionLine"), ("identifier", .string identifier),
       ("path", .string path)]

/-- The members that an outcome contributes to a value. -/
def Outcome.members (outcome : Outcome) : List (String × Json) :=
  [("resolution", outcome.resolution.toJson),
   ("matchedLine", .optional .word outcome.matchedLine),
   ("diagnostics", .array (outcome.diagnostics.map Diagnostic.toJson))]

end CallAtlas
