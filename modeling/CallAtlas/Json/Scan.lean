import CallAtlas.Json.ReadError
import CallAtlas.Decimal.Reading
import CallAtlas.Text.Utf8

/-!
# Scanning of words, numbers and strings

Each scanner takes bytes from the front and gives what it found together with the bytes behind it
and the proof that these are fewer, so that the readers built on it end.
-/

namespace CallAtlas.Json

theorem length_lt_cons (b : UInt8) (rest : List UInt8) : rest.length < (b :: rest).length :=
  Nat.lt_succ_self rest.length

theorem length_le_cons (b : UInt8) (rest : List UInt8) : rest.length ≤ (b :: rest).length :=
  Nat.le_succ rest.length

/-- What was found at the front of some bytes, and the bytes behind it. -/
structure Taken (α : Type) (s : List UInt8) where
  value : α
  rest : List UInt8
  shorter : rest.length < s.length

/-- The same find, seen from bytes that are no fewer. -/
def Taken.widen {α : Type} {s t : List UInt8} (taken : Taken α s) (h : s.length ≤ t.length) :
    Taken α t :=
  ⟨taken.value, taken.rest, Nat.lt_of_lt_of_le taken.shorter h⟩

/-- Another value for the same find. -/
def Taken.map {α β : Type} {s : List UInt8} (f : α → β) (taken : Taken α s) : Taken β s :=
  ⟨f taken.value, taken.rest, taken.shorter⟩

/-- A scanner or reader. -/
abbrev Reading (α : Type) := (s : List UInt8) → Except Fault (Taken α s)

/-- A fault at the front of the bytes that are left. -/
def faultAt {α : Type} (cause : Cause) (left : List UInt8) : Except Fault α :=
  .error ⟨cause, left.length⟩

/-- Whether the byte is a blank between tokens. -/
def isSpace (b : UInt8) : Bool :=
  b = 0x20 || b = 0x0A || b = 0x09 || b = 0x0D

def skipSpaces (s : List UInt8) : List UInt8 :=
  s.dropWhile isSpace

theorem length_skipSpaces_le (s : List UInt8) : (skipSpaces s).length ≤ s.length :=
  (List.dropWhile_sublist isSpace).length_le

def isDigit (b : UInt8) : Bool :=
  0x30 ≤ b && b ≤ 0x39

def digitValue (b : UInt8) : Nat :=
  b.toNat - 0x30

/-- The bytes of a word that must stand here. -/
def scanWord : List UInt8 → List UInt8 → Except Fault (List UInt8)
  | [], s => .ok s
  | _ :: _, [] => faultAt .endInValue []
  | expected :: word, b :: rest =>
    if b = expected then scanWord word rest else faultAt .word rest

theorem length_le_of_scanWord {word s rest : List UInt8} (h : scanWord word s = .ok rest) :
    rest.length ≤ s.length := by
  fun_induction scanWord word s with
  | case1 => simp_all
  | case2 => simp [faultAt] at h
  | case3 _ _ _ ih => have := ih h; simp; omega
  | case4 => simp [faultAt] at h

/-! ## Numbers -/

/-- Takes digits into a significand as long as it fits 64 bits; gives the significand, the number
of digits taken and the digits left. -/
def absorb (significand taken : Nat) : List UInt8 → Nat × Nat × List UInt8
  | [] => (significand, taken, [])
  | d :: rest =>
    if 10 * significand + digitValue d < UInt64.size then
      absorb (10 * significand + digitValue d) (taken + 1) rest
    else (significand, taken, d :: rest)

/-- The bits of a double with a sign in front of its magnitude. -/
def signedBits (negative : Bool) (magnitude : Float) : UInt64 :=
  (if negative then -magnitude else magnitude).toBits

/-- The double of a sign, a significand and an exponent; `rest` stands behind the number. -/
def doubleOf (negative : Bool) (significand : Nat) (exponent : Int) (rest : List UInt8) :
    Except Fault Number :=
  match Decimal.readDouble? (UInt64.ofNat significand) exponent with
  | some magnitude => .ok (.double (signedBits negative magnitude))
  | none => faultAt .numberRange rest

/-- The number of a sign and a significand without fraction and exponent. Negative numbers that
64 bits cannot hold are doubles, and so is the negative zero. -/
def integerOf (negative : Bool) (significand : Nat) : Number :=
  if negative then
    if significand = 0 ∨ Nat.pow 2 63 < significand then
      .double (signedBits true (UInt64.ofNat significand).toFloat)
    else .int (-significand)
  else .int significand

/-- The value of the digits of an exponent, read up to the first digit with which it no longer
fits 31 bits: that digit and the digits behind it are the second part. -/
def exponentValue (value : Nat) : List UInt8 → Nat × List UInt8
  | [] => (value, [])
  | d :: rest =>
    if 10 * value + digitValue d < Nat.pow 2 31 then exponentValue (10 * value + digitValue d) rest
    else (value, d :: rest)

/-- The sign in front of an exponent. -/
def scanExponentSign : List UInt8 → Bool × List UInt8
  | 0x2B :: rest => (false, rest)
  | 0x2D :: rest => (true, rest)
  | s => (false, s)

theorem length_scanExponentSign_le (s : List UInt8) :
    (scanExponentSign s).2.length ≤ s.length := by
  unfold scanExponentSign
  split <;> simp

/-- The bytes from the first that is no digit on. -/
def skipDigits (s : List UInt8) : List UInt8 :=
  s.dropWhile isDigit

theorem length_skipDigits_le (s : List UInt8) : (skipDigits s).length ≤ s.length :=
  (List.dropWhile_sublist isDigit).length_le

/-- The bytes behind the first of `digits`, the last digits at the front of `s`. -/
def behindFirst (digits s : List UInt8) : List UInt8 :=
  digits.drop 1 ++ skipDigits s

/-- What stands behind the letter of an exponent. -/
def scanExponent (negative : Bool) (significand : Nat) (start : Int) (s : List UInt8) :
    Except Fault { found : Number × List UInt8 // found.2.length ≤ s.length } :=
  let sign := scanExponentSign s
  match h : sign.2 with
  | [] => faultAt .endInValue []
  | b :: rest =>
    have bound : (skipDigits (b :: rest)).length ≤ s.length := by
      have h₁ := length_skipDigits_le (b :: rest)
      have h₂ := length_scanExponentSign_le s
      rw [h] at h₂
      omega
    if !isDigit b then faultAt .number rest
    else
      match exponentValue 0 (sign.2.takeWhile isDigit) with
      | (value, []) => do
        let exponent := if sign.1 then start - value else start + value
        let number ← doubleOf negative significand exponent (skipDigits (b :: rest))
        return ⟨(number, skipDigits (b :: rest)), bound⟩
      | (_, left) =>
        if significand ≠ 0 ∧ sign.1 = false then
          faultAt .numberRange (behindFirst left (b :: rest))
        else .ok ⟨(.double (signedBits negative 0), skipDigits (b :: rest)), bound⟩

/-- Whether the byte is the letter in front of an exponent. -/
def isExponentLetter (b : UInt8) : Bool :=
  b = 0x65 || b = 0x45

/-- What stands behind the point of a number. -/
def scanFraction (negative : Bool) (significand : Nat) (start : Int) (s : List UInt8) :
    Except Fault { found : Number × List UInt8 // found.2.length ≤ s.length } :=
  let digits := s.takeWhile isDigit
  have bound := length_skipDigits_le s
  if digits.isEmpty then
    match s with
    | [] => faultAt .endInValue []
    | _ :: rest => faultAt .number rest
  else
    let (significand, taken, _) := absorb significand 0 digits
    match h : skipDigits s with
    | [] => do
      let number ← doubleOf negative significand (start - taken) []
      return ⟨(number, []), Nat.zero_le _⟩
    | b :: rest =>
      if isExponentLetter b then do
        let ⟨found, le⟩ ← scanExponent negative significand (start - taken) rest
        return ⟨found, by rw [h] at bound; simp at bound; omega⟩
      else do
        let number ← doubleOf negative significand (start - taken) (b :: rest)
        return ⟨(number, b :: rest), by rw [← h]; exact bound⟩

/-- What stands behind the digits of a number, of which `left` no longer fit the significand. -/
def scanBehindDigits (negative : Bool) (significand left : Nat) (s : List UInt8) :
    Except Fault { found : Number × List UInt8 // found.2.length ≤ s.length } :=
  match s with
  | 0x2E :: rest => do
    let ⟨found, le⟩ ← scanFraction negative significand left rest
    return ⟨found, by simp; omega⟩
  | s =>
    match s with
    | [] =>
      if left = 0 then .ok ⟨(integerOf negative significand, []), Nat.le_refl _⟩
      else do
        let number ← doubleOf negative significand left []
        return ⟨(number, []), Nat.le_refl _⟩
    | b :: rest =>
      if isExponentLetter b then do
        let ⟨found, le⟩ ← scanExponent negative significand left rest
        return ⟨found, by simp; omega⟩
      else if left = 0 then
        .ok ⟨(integerOf negative significand, b :: rest), Nat.le_refl _⟩
      else do
        let number ← doubleOf negative significand left (b :: rest)
        return ⟨(number, b :: rest), Nat.le_refl _⟩

/-- A number without its sign. -/
def scanMagnitude (negative : Bool) : Reading Number
  | [] => faultAt .endInValue []
  | b :: rest =>
    if !isDigit b then faultAt .number rest
    else if b = 0x30 then
      match rest with
      | [] => do
        let ⟨found, le⟩ ← scanBehindDigits negative 0 0 []
        return ⟨found.1, found.2, by simp at *; omega⟩
      | c :: behind =>
        if isDigit c then faultAt .number behind
        else do
          let ⟨found, le⟩ ← scanBehindDigits negative 0 0 (c :: behind)
          return ⟨found.1, found.2, by simp at *; omega⟩
    else do
      let (significand, _, left) := absorb 0 0 (b :: rest.takeWhile isDigit)
      let ⟨found, le⟩ ← scanBehindDigits negative significand left.length (skipDigits rest)
      return ⟨found.1, found.2, by
        have := length_skipDigits_le rest
        simp
        omega⟩

def scanNumber : Reading Number
  | 0x2D :: rest => do
    let found ← scanMagnitude true rest
    return found.widen (by simp)
  | s => scanMagnitude false s

/-! ## Strings -/

/-- The value of a hexadecimal digit. -/
def hexValue? (b : UInt8) : Option Nat :=
  if isDigit b then some (b.toNat - 0x30)
  else if 0x61 ≤ b && b ≤ 0x66 then some (b.toNat - 0x61 + 10)
  else if 0x41 ≤ b && b ≤ 0x46 then some (b.toNat - 0x41 + 10)
  else none

/-- The four hexadecimal digits of an escape. -/
def scanHex : Reading Nat
  | a :: b :: c :: d :: rest =>
    match hexValue? a, hexValue? b, hexValue? c, hexValue? d with
    | some a, some b, some c, some d =>
      .ok ⟨4096 * a + 256 * b + 16 * c + d, rest, by simp; omega⟩
    | _, _, _, _ => faultAt .escape rest
  | _ => faultAt .endInString []

def isFirstHalf (n : Nat) : Bool :=
  0xD800 ≤ n && n ≤ 0xDBFF

def isSecondHalf (n : Nat) : Bool :=
  0xDC00 ≤ n && n ≤ 0xDFFF

/-- The escape that must follow the first half of a pair, with the character of both. -/
def scanSecondHalf (first : Nat) : Reading Char
  | [] => faultAt .endInString []
  | 0x5C :: [] => faultAt .endInString []
  | 0x5C :: 0x75 :: digits => do
    let second ← scanHex digits
    if isSecondHalf second.value then
      let point := 0x10000 + 0x400 * (first - 0xD800) + (second.value - 0xDC00)
      return (second.map fun _ => Char.ofNat point).widen (by simp; omega)
    else faultAt .surrogate second.rest
  | 0x5C :: _ :: rest => faultAt .secondHalf rest
  | _ :: rest => faultAt .secondHalf rest

/-- What stands behind the backslash and the letter of an escape by number. -/
def scanUnit : Reading Char := fun s => do
  let first ← scanHex s
  if isSecondHalf first.value then faultAt .surrogate first.rest
  else if isFirstHalf first.value then
    let second ← scanSecondHalf first.value first.rest
    return second.widen (Nat.le_of_lt first.shorter)
  else return first.map Char.ofNat

/-- The character that a letter behind a backslash stands for. -/
def escapeOf? (b : UInt8) : Option Char :=
  if b = 0x22 then some '"'
  else if b = 0x5C then some '\\'
  else if b = 0x2F then some '/'
  else if b = 0x62 then some '\x08'
  else if b = 0x66 then some '\x0c'
  else if b = 0x6E then some '\n'
  else if b = 0x72 then some '\r'
  else if b = 0x74 then some '\t'
  else none

/-- What stands behind a backslash. -/
def scanEscape : Reading Char
  | [] => faultAt .endInString []
  | b :: rest =>
    if b = 0x75 then do
      let unit ← scanUnit rest
      return unit.widen (by simp)
    else
      match escapeOf? b with
      | some c => .ok ⟨c, rest, by simp⟩
      | none => faultAt .escape rest

/-- The bytes of a string up to its closing quote, behind those read so far, which are given
backwards. -/
def scanStringBytes (bytes : List UInt8) (s : List UInt8) :
    Except Fault (Taken (List UInt8) s) :=
  match s with
  | [] => faultAt .endInString []
  | b :: rest =>
    if b = 0x22 then .ok ⟨bytes.reverse, rest, by simp⟩
    else if b = 0x5C then do
      let c ← scanEscape rest
      have : c.rest.length < rest.length := c.shorter
      let found ← scanStringBytes ((String.singleton c.value).toUTF8.toList.reverse ++ bytes) c.rest
      return found.widen (by simp; omega)
    else if b < 0x20 then faultAt .control rest
    else do
      let found ← scanStringBytes (b :: bytes) rest
      return found.widen (by simp)
termination_by s.length

/-- The fault of a string whose bytes are no UTF-8, with `rest` behind the string. Its place is
found from the end: as many bytes before that as the string has from the faulty one on, escapes
resolved. Without escapes this is the place of the faulty byte. -/
def faultInString {α : Type} (bytes : List UInt8) (fault : Text.Utf8.Fault) (rest : List UInt8) :
    Except Fault α :=
  .error ⟨.codePoint, rest.length + (bytes.length - fault.index)⟩

/-- What stands behind the opening quote of a string. -/
def scanString : Reading String := fun s => do
  let found ← scanStringBytes [] s
  match Text.Utf8.text found.value with
  | .ok value => return found.map fun _ => value
  | .error fault => faultInString found.value fault found.rest

end CallAtlas.Json
