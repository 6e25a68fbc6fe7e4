/-!
# Decimal numerals

Naturals are written without leading zeros. The reader of 32-bit words is more lenient than the
writer: it takes one plus sign and any number of leading zeros, and digits of ASCII only.
-/

namespace CallAtlas.Text

def digitChar (d : Nat) : Char :=
  Char.ofNat (48 + d)

/-- The canonical decimal numeral of a natural. -/
def numeral (n : Nat) : List Char :=
  if n < 10 then [digitChar n] else numeral (n / 10) ++ [digitChar (n % 10)]

/-- The value of a string of ASCII digits, read after a number with the value given. -/
def digitsValue? (value : Nat) : List Char → Option Nat
  | [] => some value
  | c :: rest =>
    if c.isDigit then digitsValue? (10 * value + (c.toNat - 48)) rest else none

/-- The value of a non-empty string of ASCII digits. -/
def numeralValue? : List Char → Option Nat
  | [] => none
  | digits => digitsValue? 0 digits

/-- Drops one plus sign in front. -/
def dropPlus : List Char → List Char
  | '+' :: rest => rest
  | s => s

/-- Reads a 32-bit word: an optional plus sign and a non-empty string of ASCII digits. -/
def readWord? (s : List Char) : Option UInt32 :=
  (numeralValue? (dropPlus s)).bind fun n =>
    if n < UInt32.size then some (UInt32.ofNat n) else none

def ofNat (n : Nat) : String :=
  String.ofList (numeral n)

def ofWord (n : UInt32) : String :=
  ofNat n.toNat

/-- The numeral of an integer as text, with a minus sign below zero. -/
def ofInt (n : Int) : String :=
  if n < 0 then "-" ++ ofNat n.natAbs else ofNat n.natAbs

end CallAtlas.Text
