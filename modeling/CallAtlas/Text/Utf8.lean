import CallAtlas.Text.Numeral

/-!
# UTF-8

Bytes are decoded into characters, or the first place is reported where they are no UTF-8: the
index of the byte at which the offending sequence starts, and how many bytes of it are known to be
wrong. A sequence cut off by the end of the bytes has no such length.
-/

namespace CallAtlas.Text.Utf8

/-- The first place at which bytes are no UTF-8. -/
structure Fault where
  /-- The index of the byte at which the offending sequence starts. -/
  index : Nat
  /-- The number of bytes known to be wrong, or none where the bytes end inside a character. -/
  length : Option Nat
  deriving DecidableEq, Repr

def Fault.message (fault : Fault) : String :=
  match fault.length with
  | some length =>
    "invalid utf-8 sequence of " ++ ofNat length ++ " bytes from index " ++
      ofNat fault.index
  | none => "incomplete utf-8 byte sequence from index " ++ ofNat fault.index

/-- What the first byte of a character says about the bytes behind it. -/
inductive Lead where
  /-- The byte is a character of its own. -/
  | alone
  /-- So many bytes follow, the first of them between two bounds. -/
  | followed (count : Nat) (low high : UInt8)
  /-- No character starts with the byte. -/
  | none
  deriving DecidableEq, Repr

/-- The table of first bytes. Its bounds keep out the forms that are too long, the surrogates and
the numbers beyond the last code point. -/
def lead (b : UInt8) : Lead :=
  if b < 0x80 then .alone
  else if b < 0xC2 then .none
  else if b < 0xE0 then .followed 1 0x80 0xBF
  else if b = 0xE0 then .followed 2 0xA0 0xBF
  else if b = 0xED then .followed 2 0x80 0x9F
  else if b < 0xF0 then .followed 2 0x80 0xBF
  else if b = 0xF0 then .followed 3 0x90 0xBF
  else if b < 0xF4 then .followed 3 0x80 0xBF
  else if b = 0xF4 then .followed 3 0x80 0x8F
  else .none

/-- The bits that a first byte brings when `count` bytes follow it. -/
def leadBits (b : UInt8) (count : Nat) : Nat :=
  b.toNat % Nat.pow 2 (6 - count)

/-- Where the decoder stands: between characters, or inside one. -/
inductive Place where
  /-- Between characters. -/
  | between
  /-- So many bytes of the character are read and so many are owed; `bits` are its bits so far,
  and the next byte lies between the bounds. -/
  | inside (done owed bits : Nat) (low high : UInt8)

/-- Decodes bytes from an index on, behind the characters read so far, which are given backwards. -/
def decodeFrom (index : Nat) (chars : List Char) : Place → List UInt8 → Except Fault (List Char)
  | .between, [] => .ok chars.reverse
  | .inside _ _ _ _ _, [] => .error ⟨index, none⟩
  | .between, b :: rest =>
    match lead b with
    | .alone => decodeFrom (index + 1) (Char.ofNat b.toNat :: chars) .between rest
    | .followed count low high =>
      decodeFrom index chars (.inside 1 count (leadBits b count) low high) rest
    | .none => .error ⟨index, some 1⟩
  | .inside done owed bits low high, b :: rest =>
    if low ≤ b && b ≤ high then
      let bits := 64 * bits + b.toNat % 64
      if owed ≤ 1 then
        decodeFrom (index + done + 1) (Char.ofNat bits :: chars) .between rest
      else decodeFrom index chars (.inside (done + 1) (owed - 1) bits 0x80 0xBF) rest
    else .error ⟨index, some done⟩

/-- The characters of the bytes. -/
def decode (bytes : List UInt8) : Except Fault (List Char) :=
  decodeFrom 0 [] .between bytes

/-- The text of the bytes (`from_utf8`). -/
def text (bytes : List UInt8) : Except Fault String :=
  (decode bytes).map String.ofList

def bytes (s : String) : List UInt8 :=
  s.toUTF8.toList

end CallAtlas.Text.Utf8
