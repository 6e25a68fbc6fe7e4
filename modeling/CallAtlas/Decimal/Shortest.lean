/-!
# Shortest decimals

The decimal that stands for a finite double: of all decimals that round to the double, one with
the fewest digits, and among those the nearest. All arithmetic is exact, on naturals.

`Binary.holds` is the test behind the choice: a decimal rounds to the double exactly if it lies
between the midpoints to the neighbours below and above, the midpoints included if the
significand is even.
-/

namespace CallAtlas.Decimal

/-- A finite double without its sign, `significand * 2 ^ exponent`. -/
structure Binary where
  /-- The significand. -/
  significand : Nat
  /-- The exponent of two. -/
  exponent : Int
  /-- Whether the neighbour below is half as far as the neighbour above. -/
  narrowBelow : Bool
  deriving DecidableEq, Repr

/-- The magnitude that the bits of a finite double stand for. -/
def Binary.ofBits (bits : UInt64) : Binary :=
  let biased := ((bits >>> 52) &&& 0x7FF).toNat
  let fraction := (bits &&& 0xFFFFFFFFFFFFF).toNat
  if biased = 0 then ⟨fraction, -1074, false⟩
  else ⟨Nat.pow 2 52 + fraction, (biased : Int) - 1075, fraction == 0 && biased != 1⟩

/-- The decimal `digits * 10 ^ exponent`. -/
structure Scaled where
  /-- The digits, as a number. -/
  digits : Nat
  /-- The exponent of ten. -/
  exponent : Int
  deriving DecidableEq, Repr

/-- Compares `a * 10 ^ i` with `n * 2 ^ j`. -/
def compareScaled (a : Nat) (i : Int) (n : Nat) (j : Int) : Ordering :=
  compare (a * Nat.pow 10 i.toNat * Nat.pow 2 (-j).toNat)
    (n * Nat.pow 2 j.toNat * Nat.pow 10 (-i).toNat)

/-- Whether the decimal rounds to the double. -/
def Binary.holds (x : Binary) (d : Scaled) : Bool :=
  let low := if x.narrowBelow then 4 * x.significand - 1 else 4 * x.significand - 2
  let closed := x.significand % 2 == 0
  let below := compareScaled d.digits d.exponent low (x.exponent - 2)
  let above := compareScaled d.digits d.exponent (4 * x.significand + 2) (x.exponent - 2)
  (below == .gt || (closed && below == .eq)) && (above == .lt || (closed && above == .eq))

/-- The number of whole steps `10 ^ exponent` in the double. -/
def Binary.stepsOf (x : Binary) (exponent : Int) : Nat :=
  x.significand * Nat.pow 2 x.exponent.toNat * Nat.pow 10 (-exponent).toNat /
    (Nat.pow 2 (-x.exponent).toNat * Nat.pow 10 exponent.toNat)

/-- The least exponent whose power of ten is above the double, which is not zero: an estimate
from the binary logarithm is at most one too high and two too low. -/
def Binary.scale (x : Binary) : Int :=
  let estimate := ((x.significand.log2 : Int) + x.exponent) * 30103 / 100000
  let above := fun k : Int => compareScaled 1 k x.significand x.exponent == .gt
  ([estimate - 1, estimate, estimate + 1].find? above).getD (estimate + 2)

/-- The neighbour of the double on the grid of step `10 ^ exponent` that rounds to it: the nearer
one if both do, and the even one if both are equally near. -/
def Binary.onGrid? (x : Binary) (exponent : Int) : Option Scaled :=
  let lower : Scaled := ⟨x.stepsOf exponent, exponent⟩
  let upper : Scaled := ⟨lower.digits + 1, exponent⟩
  match x.holds lower, x.holds upper with
  | true, false => some lower
  | false, true => some upper
  | false, false => none
  | true, true =>
    match compareScaled (lower.digits + upper.digits) exponent (2 * x.significand) x.exponent with
    | .gt => some lower
    | .lt => some upper
    | .eq => some (if lower.digits % 2 = 0 then lower else upper)

/-- The double itself as a decimal. -/
def Binary.exact (x : Binary) : Scaled :=
  if 0 ≤ x.exponent then ⟨x.significand * Nat.pow 2 x.exponent.toNat, 0⟩
  else ⟨x.significand * Nat.pow 5 (-x.exponent).toNat, x.exponent⟩

/-- Moves the zeros at the end of the digits into the exponent. -/
def Scaled.dropZeros (d : Scaled) : Scaled :=
  if d.digits ≠ 0 ∧ d.digits % 10 = 0 then Scaled.dropZeros ⟨d.digits / 10, d.exponent + 1⟩ else d
termination_by d.digits
decreasing_by omega

/-- The shortest decimal that rounds to the double, which is not zero. Seventeen digits always
suffice; the exact value stands behind them so that the answer is right in any case. -/
def Binary.shortest (x : Binary) : Scaled :=
  let scale := x.scale
  let found := (List.range 17).findSome? fun (i : Nat) => x.onGrid? (scale - i - 1)
  (found.getD x.exact).dropZeros

end CallAtlas.Decimal
