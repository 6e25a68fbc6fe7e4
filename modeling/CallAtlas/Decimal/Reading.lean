/-!
# Doubles from decimals

The double that a decimal of a document stands for. The digits become a double first, and that
double is then multiplied or divided by a power of ten, so a long decimal may be read as a
neighbour of the nearest double. A decimal beyond the largest double has no value.
-/

namespace CallAtlas.Decimal

/-- The double nearest to a power of ten, for exponents up to 308. -/
def powerOfTen (exponent : Nat) : Float :=
  Float.ofScientific 1 false exponent

/-- The double divided by a power of ten, in steps of 308. -/
def divideByPower (x : Float) (exponent : Nat) : Float :=
  if exponent ≤ 308 then x / powerOfTen exponent
  else if x == 0 then x
  else divideByPower (x / powerOfTen 308) (exponent - 308)
termination_by exponent

/-- The double multiplied by a power of ten, if it is finite. -/
def multiplyByPower? (x : Float) (exponent : Nat) : Option Float :=
  if exponent ≤ 308 then
    let product := x * powerOfTen exponent
    if product.isInf then none else some product
  else if x == 0 then some x
  else none

/-- The double that `significand * 10 ^ exponent` is read as. -/
def readDouble? (significand : UInt64) (exponent : Int) : Option Float :=
  match exponent with
  | .ofNat n => multiplyByPower? significand.toFloat n
  | .negSucc n => some (divideByPower significand.toFloat (n + 1))

end CallAtlas.Decimal
