import Decomment.Number.Shortest

/-!
Correctly rounded reading of decimals.

`nearestBits` gives the binary64 value nearest to `digits · 10 ^ exponent`, a tie going to the
value with the even significand, by its bits. It works in exact natural arithmetic: it finds the
power of two below the decimal, takes the 53-bit significand (or the subnormal one) that the
decimal falls between, and rounds the quotient once. A decimal beyond the largest finite value
gives an infinity; one far below the least subnormal gives zero.
-/

namespace Decomment.Number

/-- The bits of an infinity of the given sign. -/
def infinityBits (negative : Bool) : UInt64 :=
  ((if negative then Nat.pow 2 63 else 0) + 0x7FF * Nat.pow 2 52 : Nat).toUInt64

/-- The bits are those of an infinity or NaN. -/
def isNonFinite (bits : UInt64) : Bool :=
  bits.toNat / Nat.pow 2 52 % Nat.pow 2 11 == 0x7FF

/-- The bits are those of a NaN. -/
def isNaN (bits : UInt64) : Bool :=
  isNonFinite bits && bits.toNat % Nat.pow 2 52 != 0

/-- The number of decimal digits of a number, at least one. -/
def decimalLength (n : Nat) : Nat :=
  (Nat.toDigits 10 n).length

/-- `n / d` rounded to the nearest whole number, a tie going to the even one. -/
def roundHalfEven (n d : Nat) : Nat :=
  let q := n / d
  let r := n % d
  if 2 * r > d || (2 * r == d && q % 2 == 1) then q + 1 else q

/-- The largest `t` with `2 ^ t ≤ num / den`, for positive `num` and `den`. -/
def floorLog2 (num den : Nat) : Int :=
  let guess : Int := (num.log2 : Int) - den.log2
  if num * Nat.pow 2 (-guess).toNat ≥ den * Nat.pow 2 guess.toNat then guess else guess - 1

/-- The binary64 value nearest to `digits · 10 ^ exponent`, by its bits, negated if asked. -/
def nearestBits (negative : Bool) (digits : Nat) (exponent : Int) : UInt64 :=
  let sign : Nat := if negative then Nat.pow 2 63 else 0
  let magnitude : Int := decimalLength digits + exponent
  if digits == 0 || magnitude < -330 then sign.toUInt64
  else if magnitude > 310 then infinityBits negative
  else
    let num := digits * Nat.pow 10 exponent.toNat
    let den := Nat.pow 10 (-exponent).toNat
    -- the exponent of the last significand bit
    let q := max (floorLog2 num den - 52) (-1074)
    let s := roundHalfEven (num * Nat.pow 2 (-q).toNat) (den * Nat.pow 2 q.toNat)
    let (s, q) := if s == Nat.pow 2 53 then (Nat.pow 2 52, q + 1) else (s, q)
    if s < Nat.pow 2 52 then (sign + s).toUInt64
    else
      let field := q + 1075
      if field ≥ 0x7FF then infinityBits negative
      else (sign + field.toNat * Nat.pow 2 52 + (s - Nat.pow 2 52)).toUInt64

end Decomment.Number
