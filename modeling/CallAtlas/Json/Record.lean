import CallAtlas.Json.Mismatch

/-!
# Records from values

Decoders of the values that records are made of, and records themselves. A record is written as an
object or as the list of its fields in their declared order. The members of an object are taken in
the order of the object, and the first one that does not decode decides; members that no field
claims are passed over. Absent fields are reported after that, in declared order.
-/

namespace CallAtlas

/-- Decodes a value. -/
abbrev Decoder (α : Type) := Json → Except Mismatch α

namespace Decoder

def string : Decoder String
  | .string value => .ok value
  | value => .error (.kind value.found .string)

/-- An integer from zero up to below a bound, read as `α`. -/
def natBelow {α : Type} (bound : Nat) (expected : Expected) (make : Nat → α) : Decoder α
  | .number (.int n) =>
    if 0 ≤ n ∧ n < bound then .ok (make n.toNat)
    else .error (.value (.number (.int n)) expected)
  | value => .error (.kind value.found expected)

def word : Decoder UInt32 :=
  natBelow UInt32.size .word UInt32.ofNat

/-- A 64-bit size. -/
def size : Decoder Nat :=
  natBelow UInt64.size .size id

/-- Null, or a value that the decoder takes. -/
def optional {α : Type} (decode : Decoder α) : Decoder (Option α)
  | .null => .ok none
  | value => (decode value).map some

/-- The items of a list in order; the first that does not decode decides. -/
def items {α : Type} (decode : Decoder α) : List Json → Except Mismatch (List α)
  | [] => .ok []
  | item :: rest => do
    let a ← decode item
    let as ← items decode rest
    return a :: as

def list {α : Type} (decode : Decoder α) : Decoder (List α)
  | .array values => items decode values
  | value => .error (.kind value.found .sequence)

/-- The values of members in order, under their keys. -/
def members {α : Type} (decode : Decoder α) :
    List (String × Json) → Except Mismatch (List (String × α))
  | [] => .ok []
  | (key, value) :: rest => do
    let a ← decode value
    let as ← members decode rest
    return (key, a) :: as

/-- A map from texts. -/
def map {α : Type} (decode : Decoder α) : Decoder (List (String × α))
  | .object values => members decode values
  | value => .error (.kind value.found .map)

/-- A list of two. -/
def pair {α : Type} (decode : Decoder α) : Decoder (α × α)
  | .array [] => .error (.length 0 .pair)
  | .array [first] => do
    let _ ← decode first
    throw (.length 1 .pair)
  | .array (first :: second :: rest) => do
    let a ← decode first
    let b ← decode second
    if rest.isEmpty then return (a, b) else throw (.length (rest.length + 2) .fewer)
  | value => .error (.kind value.found .pair)

end Decoder

/-- How a record is written: its fields and what each of them adds to the record read so far. -/
structure Record (α : Type) where
  /-- The name of the record in messages. -/
  name : String
  /-- The fields in declared order. -/
  fields : List String
  /-- The number of fields, from the first on, that must be present. -/
  required : Nat
  /-- The field that a key of an object stands for. -/
  fieldOf : String → String
  /-- The record before any field is read. -/
  blank : α
  /-- Reads the value of a field into the record. -/
  read : String → Json → α → Except Mismatch α

namespace Record

variable {α : Type} (record : Record α)

/-- Reads members in order, knowing which fields were seen before; gives all fields seen. -/
def readMembers (seen : List String) (value : α) :
    List (String × Json) → Except Mismatch (List String × α)
  | [] => .ok (seen, value)
  | (key, item) :: rest =>
    let field := record.fieldOf key
    if field ∉ record.fields then readMembers seen value rest
    else if field ∈ seen then .error (.duplicate field)
    else do
      let value ← record.read field item value
      readMembers (field :: seen) value rest

/-- The first field that must be present and was not seen. -/
def absent? (seen : List String) : Option String :=
  (record.fields.take record.required).find? (· ∉ seen)

/-- Reads the values of fields that follow one another. -/
def readFields (value : α) : List String → List Json → Except Mismatch α
  | field :: fields, item :: rest => do
    let value ← record.read field item value
    readFields value fields rest
  | _, _ => .ok value

/-- Decodes a record from either of its forms, an object or the list of its values
(`from_value`). -/
def decode : Decoder α
  | .object members => do
    let (seen, value) ← record.readMembers [] record.blank members
    match record.absent? seen with
    | some field => throw (.missing field)
    | none => return value
  | .array items => do
    let value ← record.readFields record.blank record.fields items
    if items.length < record.required then
      throw (.length items.length (.fields record.name record.fields.length))
    else if record.fields.length < items.length then throw (.length items.length .fewer)
    else return value
  | value => .error (.kind value.found (.record record.name))

end Record

end CallAtlas
