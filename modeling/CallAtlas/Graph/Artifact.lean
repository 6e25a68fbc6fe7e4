import CallAtlas.Graph.Entry
import CallAtlas.Graph.Key
import CallAtlas.Json.Record

/-!
# Entries as artifacts write them

The records of an artifact (`RawEntry`) and how they become entries (`from_raw`). Two generations of
generators are read: the field names of the older one are other spellings of the same fields, and
its definitions are lists that start with the line.
-/

namespace CallAtlas

/-- How a `CallSite` is written. -/
def CallSite.record : Record CallSite where
  name := "CallSite"
  fields := ["file", "line", "column", "text"]
  required := 2
  fieldOf := id
  blank := { file := "", line := 0 }
  read
    | "file", value, site => return { site with file := ← Decoder.string value }
    | "line", value, site => return { site with line := ← Decoder.word value }
    | "column", value, site => return { site with column := ← Decoder.optional Decoder.word value }
    | "text", value, site => return { site with text := ← Decoder.optional Decoder.string value }
    | _, _, site => return site

/-- A value that is no definition record in any of its forms (`RawDefinitionLine`). -/
def noDefinition : Mismatch :=
  .noForm "RawDefinitionLine"

/-- The line of a definition record (`RawDefinitionLine::line`): a record with an optional `line`, a
list that starts with the line, a line, or null. A list without a line in front has none, whatever
else it holds. -/
def definitionLine : Decoder (Option UInt32)
  | .null => .ok none
  | .array items =>
    match items.head?.map Decoder.word with
    | some (.ok line) => .ok (some line)
    | _ => .ok none
  | .object members =>
    match members.lookup "line" with
    | none => .ok none
    | some value =>
      match Decoder.optional Decoder.word value with
      | .ok line => .ok line
      | .error _ => .error noDefinition
  | value =>
    match Decoder.word value with
    | .ok line => .ok (some line)
    | .error _ => .error noDefinition

/-- An entry as an artifact writes it (`RawEntry`). -/
structure EntryRecord where
  identifier : Option String := none
  referencedAt : Option (List CallSite) := none
  definedAt : Option (List (String × Option UInt32)) := none

namespace EntryRecord

/-- The field that a key stands for, in either spelling. -/
def fieldOf : String → String
  | "referenced_at" => "referencedAt"
  | "defined_at" => "definedAt"
  | key => key

/-- How a `RawEntry` is written. -/
def record : Record EntryRecord where
  name := "RawEntry"
  fields := ["identifier", "referencedAt", "definedAt"]
  required := 0
  fieldOf := fieldOf
  blank := {}
  read
    | "identifier", value, entry =>
      return { entry with identifier := ← Decoder.optional Decoder.string value }
    | "referencedAt", value, entry =>
      return { entry with
        referencedAt := ← Decoder.optional (Decoder.list CallSite.record.decode) value }
    | "definedAt", value, entry =>
      return { entry with definedAt := ← Decoder.optional (Decoder.map definitionLine) value }
    | _, _, entry => return entry

/-- What the entry can answer (`from_raw`): call sites come first, and an empty list or map says
nothing. -/
def target (entry : EntryRecord) : Target :=
  match entry.referencedAt.getD [], entry.definedAt.getD [] with
  | [], [] => .empty
  | [], definitions => .definitions (definitions.map fun (path, line) => ⟨path, line⟩)
  | sites, _ => .callers sites

/-- The entry under a key, which names the identifier if the record does not (`from_raw`). -/
def toEntry (entry : EntryRecord) (key : String) : Entry :=
  ⟨entry.identifier.getD (keyIdentifier key), entry.target⟩

end EntryRecord

/-- The entry that a value stands for under a key. -/
def Entry.decode (key : String) (value : Json) : Except Mismatch Entry :=
  (EntryRecord.record.decode value).map fun entry => entry.toEntry key

end CallAtlas
