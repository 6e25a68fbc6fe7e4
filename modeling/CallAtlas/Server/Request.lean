import CallAtlas.Json.Reader
import CallAtlas.Json.Skip

/-!
# Requests

A request (`JsonRpcRequest`) is one line of text with a version, a method, and possibly an id and
parameters. It is read in one pass, as an object or as the list of its four fields, so that whatever
is wrong with it has a place in the line. The place of a field that is absent or present twice is
behind the bracket that closes the request, if it closes there.
-/

namespace CallAtlas

/-- A request (`JsonRpcRequest`). Without an id it is a notification, which nobody answers. -/
structure Request where
  version : String
  id : Option Json
  method : String
  params : Option Json

namespace Request

open Json

def recordName : String := "JsonRpcRequest"

/-- The fields of a request. -/
inductive Field where
  | version
  | id
  | method
  | params
  deriving DecidableEq, Repr

/-- The fields and their keys, in the order of the list form. -/
def fields : List (String × Field) :=
  [("jsonrpc", .version), ("id", .id), ("method", .method), ("params", .params)]

/-- The field that a key stands for. -/
def Field.ofKey? (key : String) : Option Field :=
  fields.lookup key

/-- The number of lists and objects that a field may open inside each other. -/
def fieldDepth : Nat := depthLimit - 1

/-- A request of which some fields were read. -/
structure Draft where
  version : Option String := none
  id : Option (Option Json) := none
  method : Option String := none
  params : Option (Option Json) := none

namespace Draft

def has (draft : Draft) : Field → Bool
  | .version => draft.version.isSome
  | .id => draft.id.isSome
  | .method => draft.method.isSome
  | .params => draft.params.isSome

/-- The request, or the key of the first field that it lacks. -/
def finish (draft : Draft) : Except String Request :=
  match draft.version, draft.method with
  | none, _ => .error "jsonrpc"
  | some _, none => .error "method"
  | some version, some method =>
    .ok ⟨version, draft.id.getD none, method, draft.params.getD none⟩

end Draft

/-- The fault of a value that is no text or no request. -/
def wrongKind {α : Type} (expected : Expected) : List UInt8 → Except Fault α
  | [] => faultAt .endInValue []
  | b :: rest =>
    let mismatch := fun (found : Found) (left : List UInt8) =>
      faultAt (.mismatch (.kind found expected)) left
    match wordOf? b with
    | some (word, value) => do
      let left ← scanWord word rest
      mismatch value.found left
    | none =>
      if b = 0x2D || isDigit b then do
        let taken ← scanNumber (b :: rest)
        mismatch (.number taken.value) taken.rest
      else if b = 0x22 then do
        let taken ← scanString rest
        mismatch (.string taken.value) taken.rest
      else if b = 0x5B then mismatch .sequence (b :: rest)
      else if b = 0x7B then mismatch .map (b :: rest)
      else faultAt .value rest

def readText : Reading String := fun s =>
  match fromToken s with
  | ⟨0x22 :: rest, le⟩ => do
    let found ← scanString rest
    return found.widen (by simp at le; omega)
  | ⟨front, _⟩ => wrongKind .string front

/-- A value, or none where null is written. -/
def readOptional : Reading (Option Json) := fun s => do
  let found ← readValue fieldDepth s
  return found.map fun value => if value.found = .null then none else some value

def readField (draft : Draft) : Field → Reading Draft
  | .version, s => do
    let found ← readText s
    return found.map fun version => { draft with version := some version }
  | .id, s => do
    let found ← readOptional s
    return found.map fun id => { draft with id := some id }
  | .method, s => do
    let found ← readText s
    return found.map fun method => { draft with method := some method }
  | .params, s => do
    let found ← readOptional s
    return found.map fun params => { draft with params := some params }

/-- The fault of a request as a whole, at a place inside its brackets: it counts for the place
behind the closing bracket, if that comes next. -/
def faultInside {α : Type} (closing : UInt8) (reason : Mismatch) (s : List UInt8) :
    Except Fault α :=
  let left := skipSpaces s
  faultAt (.mismatch reason) (if left.head? = some closing then left.drop 1 else left)

/-- The members of a request up to its end, with the draft of those read so far. -/
def readMembers (draft : Draft) (first : Bool) (s : List UInt8) :
    Except Fault (Taken Request s) := do
  match ← nextKey? first s with
  | none =>
    match draft.finish with
    | .error key => faultInside 0x7D (.missing key) s
    | .ok request =>
      let closed ← closeObject s
      return closed.map fun _ => request
  | some ⟨front, le⟩ =>
    let key ← scanString front
    match Field.ofKey? key.value with
    | none =>
      let colon ← scanColon key.rest
      let behind ← skipValue colon.rest
      have : behind.1.length < s.length :=
        Nat.lt_of_le_of_lt behind.2
          (Nat.lt_trans colon.shorter (Nat.lt_of_lt_of_le key.shorter le))
      let found ← readMembers draft false behind.1
      return found.widen (Nat.le_of_lt this)
    | some field =>
      if draft.has field then faultInside 0x7D (.duplicate key.value) key.rest
      else
        let colon ← scanColon key.rest
        let read ← readField draft field colon.rest
        have : read.rest.length < s.length :=
          Nat.lt_trans read.shorter
            (Nat.lt_trans colon.shorter (Nat.lt_of_lt_of_le key.shorter le))
        let found ← readMembers read.value false read.rest
        return found.widen (Nat.le_of_lt this)
termination_by s.length

/-- A field of the list form, with its number; the list may not end before it. -/
def readItem {α : Type} (number : Nat) (read : Reading α) : Reading α := fun s => do
  match ← nextItem? (number = 0) s with
  | none => faultInside 0x5D (.length number (.fields recordName fields.length)) s
  | some ⟨front, le⟩ =>
    let found ← read front
    return found.widen le

/-- The last field of the list form, which may be left out. -/
def readLastItem (s : List UInt8) : Except Fault (Option Json × Behind s) := do
  match ← nextItem? false s with
  | none => return (none, .all s)
  | some ⟨front, le⟩ =>
    let found ← readOptional front
    return (found.value, found.behind.widen le)

/-- The fields of the list form up to its end. -/
def readItems (s : List UInt8) : Except Fault (Request × List UInt8) := do
  let version ← readItem 0 readText s
  let id ← readItem 1 readOptional version.rest
  let method ← readItem 2 readText id.rest
  let (params, left) ← readLastItem method.rest
  let closed ← closeList left.1
  return (⟨version.value, id.value, method.value, params⟩, closed.rest)

/-- A request, and what stands behind it. -/
def readFront (s : List UInt8) : Except Fault (Request × List UInt8) :=
  match skipSpaces s with
  | [] => faultAt .endInValue []
  | b :: rest =>
    if b = 0x5B then readItems rest
    else if b = 0x7B then do
      let found ← readMembers {} true rest
      return (found.value, found.rest)
    else wrongKind (.record recordName) (b :: rest)

/-- The request that a line holds (`from_str`). -/
def read (line : String) : Except ReadError Request :=
  let bytes := Text.Utf8.bytes line
  let request : Except Fault Request := do
    let (request, left) ← readFront bytes
    readEnd left
    return request
  match request with
  | .ok request => .ok request
  | .error fault => .error (fault.locate bytes)

end Request

end CallAtlas
