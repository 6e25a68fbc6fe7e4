import CallAtlas.Json.Value

/-!
# Entries of a call graph

An entry knows the places that call its identifier, or the places that define it, or nothing.
Which of these it is was decided when the graph was built: the lists inside an entry are not empty.
-/

namespace CallAtlas

/-- A place that calls (`CallSite`). -/
structure CallSite where
  file : String
  line : UInt32
  column : Option UInt32 := none
  /-- The source text of the calling line. -/
  text : Option String := none
  deriving DecidableEq, Repr

/-- A place that defines (`DefinitionSite`); the line may be unknown. -/
structure Definition where
  path : String
  line : Option UInt32
  deriving DecidableEq, Repr

/-- What an entry can answer (`EntryTarget`). -/
inductive Target where
  /-- The identifier is called from these places. -/
  | callers (sites : List CallSite)
  /-- The identifier is defined at one of these places. -/
  | definitions (candidates : List Definition)
  /-- Neither is known. -/
  | empty
  deriving DecidableEq, Repr

/-- An entry of a call graph (`CallGraphEntry`). -/
structure Entry where
  identifier : String
  target : Target
  deriving DecidableEq, Repr

namespace CallSite

/-- A call site as a value; what is unknown is left out. -/
def toJson (site : CallSite) : Json :=
  .object <|
    [("file", .string site.file), ("line", .word site.line)] ++
      (site.column.map fun column => ("column", Json.word column)).toList ++
      (site.text.map fun text => ("text", Json.string text)).toList

end CallSite

def Definition.toJson (definition : Definition) : Json :=
  .object [("path", .string definition.path), ("line", .optional .word definition.line)]

end CallAtlas
