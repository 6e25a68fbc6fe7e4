import CallAtlas.Json.Reader

/-!
# Values that nobody reads

A value in a place that no field claims is passed over. Its brackets, commas, words and the form
of its numbers and escapes are looked at; the range of its numbers, the pairs of its surrogates and
the depth of its nesting are not.
-/

namespace CallAtlas.Json

/-- An open list or object. -/
inductive Bracket where
  | list
  | object
  deriving DecidableEq, Repr

namespace Bracket

/-- The byte that closes it. -/
def closing : Bracket → UInt8
  | .list => 0x5D
  | .object => 0x7D

/-- The cause of a fault where the bytes end inside it. -/
def endCause : Bracket → Cause
  | .list => .endInList
  | .object => .endInObject

/-- The cause of a fault where neither a comma nor its end follows. -/
def goesOn : Bracket → Cause
  | .list => .listGoesOn
  | .object => .objectGoesOn

end Bracket

/-- The bytes behind the sign of an exponent. -/
def behindSign (s : List UInt8) : Behind s :=
  ⟨(scanExponentSign s).2, length_scanExponentSign_le s⟩

/-- The bytes from the first that is no digit on. -/
def behindDigits (s : List UInt8) : Behind s :=
  ⟨skipDigits s, length_skipDigits_le s⟩

def skipExponent (s : List UInt8) : Except Fault (Behind s) :=
  match behindSign s with
  | ⟨[], _⟩ => faultAt .number []
  | ⟨b :: rest, le⟩ =>
    if isDigit b then .ok ((behindDigits rest).widen (le_of_cons_le le))
    else faultAt .number rest

def skipFraction (s : List UInt8) : Except Fault (Behind s) :=
  if (s.takeWhile isDigit).isEmpty then faultAt .number (s.drop 1)
  else
    match behindDigits s with
    | ⟨[], le⟩ => .ok ⟨[], le⟩
    | ⟨b :: rest, le⟩ =>
      if isExponentLetter b then do
        let behind ← skipExponent rest
        return behind.widen (le_of_cons_le le)
      else .ok ⟨b :: rest, le⟩

/-- Passes over the part of a number behind its first digits. -/
def skipBehindDigits (s : List UInt8) : Except Fault (Behind s) :=
  match s with
  | [] => .ok (.all [])
  | b :: rest =>
    if b = 0x2E then do
      let behind ← skipFraction rest
      return behind.widen (length_le_cons b rest)
    else if isExponentLetter b then do
      let behind ← skipExponent rest
      return behind.widen (length_le_cons b rest)
    else .ok (.all (b :: rest))

/-- Passes over a number without its sign. -/
def skipMagnitude : Reading Unit
  | [] => faultAt .number []
  | b :: rest =>
    if !isDigit b then faultAt .number rest
    else if b = 0x30 then
      if (rest.takeWhile isDigit).isEmpty then do
        let behind ← skipBehindDigits rest
        return behind.taken () (length_lt_cons b rest)
      else faultAt .number (rest.drop 1)
    else do
      let behind ← skipBehindDigits (skipDigits rest)
      return (behind.widen (length_skipDigits_le rest)).taken () (length_lt_cons b rest)

/-- Passes over what stands behind a backslash. -/
def skipEscape : Reading Unit
  | [] => faultAt .endInString []
  | b :: rest =>
    if b = 0x75 then do
      let digits ← scanHex rest
      return (digits.map fun _ => ()).widen (length_le_cons b rest)
    else if (escapeOf? b).isSome then .ok ⟨(), rest, length_lt_cons b rest⟩
    else faultAt .escape rest

/-- Passes over a string, behind its opening quote. -/
def skipString (s : List UInt8) : Except Fault (Taken Unit s) :=
  match s with
  | [] => faultAt .endInString []
  | b :: rest =>
    if b = 0x22 then .ok ⟨(), rest, length_lt_cons b rest⟩
    else if b = 0x5C then do
      let escape ← skipEscape rest
      have shorter : escape.rest.length < rest.length := escape.shorter
      let found ← skipString escape.rest
      return found.widen (Nat.le_trans (Nat.le_of_lt shorter) (length_le_cons b rest))
    else if b < 0x20 then faultAt .control (b :: rest)
    else do
      let found ← skipString rest
      return found.widen (length_le_cons b rest)
termination_by s.length

/-- Passes over a value that is neither list nor object, or over an opening bracket. -/
def skipToken (s : List UInt8) : Except Fault (Taken (Option Bracket) s) :=
  match fromToken s with
  | ⟨[], _⟩ => faultAt .endInValue []
  | ⟨b :: rest, le⟩ =>
    match wordOf? b with
    | some (word, value) => do
      let ⟨(_, front), le'⟩ ← readWord word value rest
      return Behind.taken ⟨front, le'⟩ none (lt_of_cons_le le)
    | none =>
      if b = 0x2D then do
        let found ← skipMagnitude rest
        return (found.map fun _ => none).widen (le_of_cons_le le)
      else if isDigit b then do
        let found ← skipMagnitude (b :: rest)
        return (found.map fun _ => none).widen le
      else if b = 0x22 then do
        let found ← skipString rest
        return (found.map fun _ => none).widen (le_of_cons_le le)
      else if b = 0x5B then .ok ⟨some .list, rest, lt_of_cons_le le⟩
      else if b = 0x7B then .ok ⟨some .object, rest, lt_of_cons_le le⟩
      else faultAt .value rest

/-- What comes next while values are passed over. -/
inductive Awaits where
  /-- A value. -/
  | value
  /-- What may stand behind a value. -/
  | behind
  /-- What may stand behind the opening of a list or an object. -/
  | opened (bracket : Bracket)
  /-- An item of a list or a member of an object. -/
  | entry (bracket : Bracket)

/-- The number of times that no byte may be taken before one is. -/
def Awaits.patience : Awaits → Nat
  | .value | .behind => 0
  | .entry _ => 1
  | .opened _ => 2

/-- Passes over all that is open: what comes next, and the lists and objects around it. -/
def skipOpen (awaits : Awaits) (stack : List Bracket) (s : List UInt8) :
    Except Fault (Behind s) :=
  match awaits with
  | .value => do
    let token ← skipToken s
    have shorter : token.rest.length < s.length := token.shorter
    let behind ← match token.value with
      | none => skipOpen .behind stack token.rest
      | some bracket => skipOpen (.opened bracket) stack token.rest
    return behind.widen (Nat.le_of_lt shorter)
  | .opened bracket =>
    match fromToken s with
    | ⟨[], _⟩ => faultAt bracket.endCause []
    | ⟨b :: rest, le⟩ => do
      have : rest.length < s.length := lt_of_cons_le le
      if b = bracket.closing then
        let behind ← skipOpen .behind stack rest
        return behind.widen (le_of_cons_le le)
      else
        let behind ← skipOpen (.entry bracket) stack (b :: rest)
        return behind.widen le
  | .entry .list => do
    let behind ← skipOpen .value (.list :: stack) s
    return behind
  | .entry .object =>
    match fromToken s with
    | ⟨[], _⟩ => faultAt .endInObject []
    | ⟨b :: rest, le⟩ =>
      if b = 0x22 then do
        let key ← skipString rest
        let colon ← scanColon key.rest
        have shorter : colon.rest.length < s.length :=
          Nat.lt_trans colon.shorter (Nat.lt_trans key.shorter (lt_of_cons_le le))
        let behind ← skipOpen .value (.object :: stack) colon.rest
        return behind.widen (Nat.le_of_lt shorter)
      else faultAt .key rest
  | .behind =>
    match stack with
    | [] => .ok (.all s)
    | bracket :: stack =>
      match fromToken s with
      | ⟨[], _⟩ => faultAt bracket.endCause []
      | ⟨b :: rest, le⟩ => do
        have : rest.length < s.length := lt_of_cons_le le
        if b = 0x2C then
          let behind ← skipOpen (.entry bracket) stack rest
          return behind.widen (le_of_cons_le le)
        else if b = bracket.closing then
          let behind ← skipOpen .behind stack rest
          return behind.widen (le_of_cons_le le)
        else faultAt bracket.goesOn rest
termination_by 3 * s.length + awaits.patience
decreasing_by all_goals simp only [Awaits.patience]; omega

def skipValue (s : List UInt8) : Except Fault (Behind s) :=
  skipOpen .value [] s

end CallAtlas.Json
