import CallAtlas.Json.Scan

/-!
# JSON documents from bytes

A document is read from bytes in one pass. Nesting is limited: a value may open 127 lists and
objects inside each other. Of several members with one key the last counts, and the members of
an object come out in ascending order of their keys.
-/

namespace CallAtlas.Json

/-- The number of lists and objects that a document may open inside each other. -/
def depthLimit : Nat := 127

/-- Bytes at the end of other bytes. -/
abbrev Behind (s : List UInt8) := { rest : List UInt8 // rest.length ≤ s.length }

theorem lt_of_cons_le {b : UInt8} {rest s : List UInt8} (le : (b :: rest).length ≤ s.length) :
    rest.length < s.length :=
  le

theorem le_of_cons_le {b : UInt8} {rest s : List UInt8} (le : (b :: rest).length ≤ s.length) :
    rest.length ≤ s.length :=
  Nat.le_of_lt le

namespace Behind

variable {s t : List UInt8}

/-- All the bytes. -/
def all (s : List UInt8) : Behind s :=
  ⟨s, Nat.le_refl s.length⟩

/-- The same end, of bytes that are no fewer. -/
def widen (behind : Behind s) (le : s.length ≤ t.length) : Behind t :=
  ⟨behind.1, Nat.le_trans behind.2 le⟩

/-- A value found in front of the end. -/
def taken {α : Type} (behind : Behind s) (value : α) (shorter : s.length < t.length) :
    Taken α t :=
  ⟨value, behind.1, Nat.lt_of_le_of_lt behind.2 shorter⟩

end Behind

/-- The bytes behind what was found. -/
def Taken.behind {α : Type} {s : List UInt8} (taken : Taken α s) : Behind s :=
  ⟨taken.rest, Nat.le_of_lt taken.shorter⟩

/-- The bytes from the first that is no blank on. -/
def fromToken (s : List UInt8) : Behind s :=
  ⟨skipSpaces s, length_skipSpaces_le s⟩

/-- Looks for the next item of a list: its bytes, or none where the list ends. -/
def nextItem? (first : Bool) (s : List UInt8) : Except Fault (Option (Behind s)) :=
  match fromToken s with
  | ⟨[], _⟩ => faultAt .endInList []
  | ⟨b :: rest, le⟩ =>
    if b = 0x5D then .ok none
    else if first then .ok (some ⟨b :: rest, le⟩)
    else if b = 0x2C then
      match fromToken rest with
      | ⟨[], _⟩ => faultAt .endInValue []
      | ⟨c :: behind, le'⟩ =>
        if c = 0x5D then faultAt .trailingComma behind
        else .ok (some ⟨c :: behind, by simp at le le' ⊢; omega⟩)
    else faultAt .listGoesOn rest

def closeList : Reading Unit := fun s =>
  match fromToken s with
  | ⟨[], _⟩ => faultAt .endInList []
  | ⟨b :: rest, le⟩ =>
    if b = 0x5D then .ok ⟨(), rest, by simp at le; omega⟩
    else if b = 0x2C then
      match skipSpaces rest with
      | [] => faultAt .trailing []
      | c :: behind => faultAt (if c = 0x5D then .trailingComma else .trailing) behind
    else faultAt .trailing rest

/-- Looks for the next key of an object: the bytes behind its quote, or none where the object
ends. -/
def nextKey? (first : Bool) (s : List UInt8) : Except Fault (Option (Behind s)) :=
  match fromToken s with
  | ⟨[], _⟩ => faultAt .endInObject []
  | ⟨b :: rest, le⟩ =>
    if b = 0x7D then .ok none
    else if first then
      if b = 0x22 then .ok (some ⟨rest, by simp at le; omega⟩) else faultAt .key rest
    else if b = 0x2C then
      match fromToken rest with
      | ⟨[], _⟩ => faultAt .endInValue []
      | ⟨c :: behind, le'⟩ =>
        if c = 0x22 then .ok (some ⟨behind, by simp at le le' ⊢; omega⟩)
        else if c = 0x7D then faultAt .trailingComma behind
        else faultAt .key behind
    else faultAt .objectGoesOn rest

def closeObject : Reading Unit := fun s =>
  match fromToken s with
  | ⟨[], _⟩ => faultAt .endInObject []
  | ⟨b :: rest, le⟩ =>
    if b = 0x7D then .ok ⟨(), rest, by simp at le; omega⟩
    else faultAt (if b = 0x2C then .trailingComma else .trailing) rest

/-- Takes the colon behind a key. -/
def scanColon : Reading Unit := fun s =>
  match fromToken s with
  | ⟨[], _⟩ => faultAt .endInObject []
  | ⟨b :: rest, le⟩ =>
    if b = 0x3A then .ok ⟨(), rest, by simp at le; omega⟩ else faultAt .colon rest

/-- The items of a list up to its end, behind those read so far, which are given backwards. -/
def readItems (readValue : Reading Json) (items : List Json) (s : List UInt8) :
    Except Fault (Taken (List Json) s) := do
  match ← nextItem? items.isEmpty s with
  | none =>
    let closed ← closeList s
    return closed.map fun _ => items.reverse
  | some ⟨front, le⟩ =>
    let item ← readValue front
    have : item.rest.length < s.length := Nat.lt_of_lt_of_le item.shorter le
    let found ← readItems readValue (item.value :: items) item.rest
    return found.widen (Nat.le_of_lt this)
termination_by s.length

/-- The members of an object up to its end, behind those read so far, which are given backwards. -/
def readMembers (readValue : Reading Json) (members : List (String × Json)) (s : List UInt8) :
    Except Fault (Taken (List (String × Json)) s) := do
  match ← nextKey? members.isEmpty s with
  | none =>
    let closed ← closeObject s
    return closed.map fun _ => members.reverse
  | some ⟨front, le⟩ =>
    let key ← scanString front
    let colon ← scanColon key.rest
    let item ← readValue colon.rest
    have : item.rest.length < s.length :=
      Nat.lt_trans item.shorter (Nat.lt_trans colon.shorter (Nat.lt_of_lt_of_le key.shorter le))
    let found ← readMembers readValue ((key.value, item.value) :: members) item.rest
    return found.widen (Nat.le_of_lt this)
termination_by s.length

/-- A word of a document and its value, at its first letter. -/
def wordOf? (b : UInt8) : Option (List UInt8 × Json) :=
  if b = 0x6E then some ([0x75, 0x6C, 0x6C], .null)
  else if b = 0x74 then some ([0x72, 0x75, 0x65], .boolean true)
  else if b = 0x66 then some ([0x61, 0x6C, 0x73, 0x65], .boolean false)
  else none

/-- The rest of a word behind its first letter. -/
def readWord (word : List UInt8) (value : Json) (s : List UInt8) :
    Except Fault { found : Json × List UInt8 // found.2.length ≤ s.length } :=
  match h : scanWord word s with
  | .error fault => .error fault
  | .ok rest => .ok ⟨(value, rest), length_le_of_scanWord h⟩

/-- A value whose lists and objects are read by `openList` and `openObject`, from behind their
opening brackets on. -/
def readToken (openList openObject : Reading Json) : Reading Json := fun s =>
  match fromToken s with
  | ⟨[], _⟩ => faultAt .endInValue []
  | ⟨b :: rest, le⟩ =>
    have shorter : rest.length < s.length := by simp at le; omega
    match wordOf? b with
    | some (word, value) => do
      let ⟨found, le'⟩ ← readWord word value rest
      return ⟨found.1, found.2, by omega⟩
    | none =>
      if b = 0x2D || isDigit b then do
        let found ← scanNumber (b :: rest)
        return (found.map Json.number).widen le
      else if b = 0x22 then do
        let found ← scanString rest
        return (found.map Json.string).widen (Nat.le_of_lt shorter)
      else if b = 0x5B then do
        let found ← openList rest
        return found.widen (Nat.le_of_lt shorter)
      else if b = 0x7B then do
        let found ← openObject rest
        return found.widen (Nat.le_of_lt shorter)
      else faultAt .value rest

/-- A value that may open lists and objects inside each other up to a depth. -/
def readValue : Nat → Reading Json
  | 0 => readToken (fun s => faultAt .depth s) (fun s => faultAt .depth s)
  | depth + 1 =>
    readToken
      (fun s => do
        let found ← readItems (readValue depth) [] s
        return found.map Json.array)
      (fun s => do
        let found ← readMembers (readValue depth) [] s
        return found.map fun members => Json.object (sortMembers members))

/-- Nothing but blanks may stand behind a document. -/
def readEnd (s : List UInt8) : Except Fault Unit :=
  match skipSpaces s with
  | [] => .ok ()
  | _ :: rest => faultAt .trailing rest

/-- The document that the bytes hold (`from_slice`). -/
def read (bytes : List UInt8) : Except ReadError Json :=
  let document : Except Fault Json := do
    let found ← readValue depthLimit bytes
    readEnd found.rest
    return found.value
  match document with
  | .ok value => .ok value
  | .error fault => .error (fault.locate bytes)

def readText (text : String) : Except ReadError Json :=
  read (Text.Utf8.bytes text)

end CallAtlas.Json
