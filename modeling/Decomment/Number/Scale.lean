/-!
Decimal scaling in binary64 arithmetic.

A decimal number read as `significand · 10 ^ exponent` is turned into a binary64 value in two
roundings rather than one: the significand is rounded to binary64, and then multiplied or divided
by the binary64 value nearest to the power of ten. Powers beyond `10 ^ 308` are divided out in
steps of `10 ^ 308`. The result is the correctly rounded value whenever the significand and the
power are both exact in binary64, and may be one unit off otherwise. A positive power that
overflows gives no value.
-/

namespace Decomment.Number

/-- Ten to the power `k`, the binary64 value nearest to it. -/
def powTen (k : Nat) : Float :=
  Float.ofScientific 1 false k

/-- Multiplies or divides by powers of ten, as described above. -/
def scaleBy (f : Float) (exponent : Int) : Option Float :=
  if exponent.natAbs ≤ 308 then
    if exponent ≥ 0 then
      let scaled := f * powTen exponent.toNat
      if scaled.isInf then none else some scaled
    else some (f / powTen exponent.natAbs)
  else if f == 0 then some f
  else if exponent ≥ 0 then none
  else scaleBy (f / powTen 308) (exponent + 308)
termination_by exponent.natAbs
decreasing_by omega

/-- The binary64 value of `significand · 10 ^ exponent`, negated when asked; `none` on overflow.
The significand is below `2 ^ 64`. -/
def scaleDecimal (positive : Bool) (significand : Nat) (exponent : Int) : Option Float :=
  (scaleBy significand.toUInt64.toFloat exponent).map fun f => if positive then f else -f

end Decomment.Number
