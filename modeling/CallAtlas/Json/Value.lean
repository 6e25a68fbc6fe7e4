import CallAtlas.Decimal.Shortest
import CallAtlas.Text.Numeral

/-!
# JSON values

A value keeps three classes of numbers apart: integers of at most 64 bits with and without a sign,
and doubles. The members of an object stand in a list. What is read from text is *canonical*: at
every level the keys ascend strictly, in the order of their code points, which is also the order of
their bytes. What is written may keep an order of its own, such as the order of a declaration.
-/

namespace CallAtlas

/-- A number of a document. -/
inductive Number where
  /-- An integer that fits 64 bits, with or without a sign. -/
  | int (value : Int)
  /-- A finite double, by its bits. -/
  | double (bits : UInt64)
  deriving DecidableEq, Repr, Inhabited

/-- A JSON value. -/
inductive Json where
  | null
  | boolean (value : Bool)
  | number (value : Number)
  | string (value : String)
  | array (items : List Json)
  | object (members : List (String × Json))
  deriving Repr, Inhabited

namespace Json

def int (n : Int) : Json :=
  .number (.int n)

def nat (n : Nat) : Json :=
  .int n

def word (n : UInt32) : Json :=
  .nat n.toNat

/-- An optional value, with null for none. -/
def optional {α : Type} (encode : α → Json) : Option α → Json
  | none => .null
  | some a => encode a

/-- Puts a member into a list of members with ascending keys, in place of one with the same key. -/
def insertMember {α : Type} (key : String) (value : α) : List (String × α) → List (String × α)
  | [] => [(key, value)]
  | (k, v) :: rest =>
    if key < k then (key, value) :: (k, v) :: rest
    else if key = k then (key, value) :: rest
    else (k, v) :: insertMember key value rest

/-- The members in ascending order of their keys; of several with one key the last. -/
def sortMembers {α : Type} (members : List (String × α)) : List (String × α) :=
  members.foldl (fun sorted member => insertMember member.1 member.2 sorted) []

mutual

/-- The value with the members of every object in ascending order of their keys. -/
def canonical : Json → Json
  | .array items => .array (canonicalItems items)
  | .object members => .object (sortMembers (canonicalMembers members))
  | value => value

/-- `canonical` of every item. -/
def canonicalItems : List Json → List Json
  | [] => []
  | item :: rest => canonical item :: canonicalItems rest

def canonicalMembers : List (String × Json) → List (String × Json)
  | [] => []
  | (key, value) :: rest => (key, canonical value) :: canonicalMembers rest

end

/-- The kind of a value, as messages name it. -/
def kind : Json → String
  | .null => "null"
  | .boolean _ => "boolean"
  | .number _ => "number"
  | .string _ => "string"
  | .array _ => "array"
  | .object _ => "object"

end Json

namespace Number

/-- The digits of a number, most significant first. -/
def digitsOf (n : Nat) : List Char :=
  Text.numeral n

/-- The layout of a decimal: the point stands among the digits where the leading digit has an
exponent from -5 to 15, with a zero behind it where no digit is left; otherwise the point follows
the leading digit and the exponent is written with its sign. -/
def layout (d : Decimal.Scaled) : List Char :=
  let digits := digitsOf d.digits
  let leading : Int := d.exponent + digits.length - 1
  let zeros := fun n : Int => List.replicate n.toNat '0'
  if -5 ≤ leading ∧ leading ≤ 15 then
    if 0 ≤ d.exponent then digits ++ zeros d.exponent ++ ['.', '0']
    else if 0 ≤ leading then
      digits.take (leading + 1).toNat ++ ['.'] ++ digits.drop (leading + 1).toNat
    else ['0', '.'] ++ zeros (-leading - 1) ++ digits
  else
    let fraction := digits.drop 1
    digits.take 1 ++ (if fraction.isEmpty then [] else '.' :: fraction) ++
      ['e', if leading < 0 then '-' else '+'] ++ Text.numeral leading.natAbs

/-- The text of a double, given by its bits. -/
def doubleText (bits : UInt64) : String :=
  let sign := if bits >>> 63 = 0 then [] else ['-']
  let magnitude := Decimal.Binary.ofBits bits
  let body := if magnitude.significand = 0 then ['0', '.', '0'] else layout magnitude.shortest
  String.ofList (sign ++ body)

def text : Number → String
  | .int n => Text.ofInt n
  | .double bits => doubleText bits

end Number

end CallAtlas
