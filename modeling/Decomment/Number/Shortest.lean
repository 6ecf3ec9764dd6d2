/-!
Shortest decimals of binary64 values.

A finite binary64 value stands for the interval of reals that round to it: from halfway to the
value below to halfway to the value above, both ends included exactly when its significand is
even. `shortest` picks, among the decimals `digits · 10 ^ exponent` in that interval, one with the
fewest significant digits, and of those the one nearest the value; of two equally near it takes
the one with the even last digit. All comparisons are exact, over natural numbers.
-/

namespace Decomment.Number

/-- A finite binary64 value without its sign: `significand · 2 ^ exponent`. `narrowBelow` says
that the gap to the value below is half the gap to the value above, which happens at a power of
two. -/
structure Binary where
  significand : Nat
  exponent : Int
  narrowBelow : Bool
deriving DecidableEq, Repr

/-- How a tie between two equally near candidates is broken. -/
inductive Tie where
  /-- The candidate with the even last digit. -/
  | toEven
  /-- The larger candidate. -/
  | up
deriving DecidableEq, Repr

/-- A decimal `digits · 10 ^ exponent`. -/
structure Decimal where
  digits : Nat
  exponent : Int
deriving DecidableEq, Repr

/-- The sign bit of binary64 bits. -/
def signOf (bits : UInt64) : Bool :=
  bits.toNat / Nat.pow 2 63 == 1

/-- The magnitude of finite binary64 bits. -/
def Binary.ofBits (bits : UInt64) : Binary :=
  let field : Nat := bits.toNat / Nat.pow 2 52 % Nat.pow 2 11
  let fraction : Nat := bits.toNat % Nat.pow 2 52
  if field == 0 then ⟨fraction, -1074, false⟩
  else ⟨Nat.pow 2 52 + fraction, (field : Int) - 1075, fraction == 0 && field > 1⟩

/-- Compares `a · 10 ^ i` with `n · 2 ^ j` exactly. -/
def compareScaled (a : Nat) (i : Int) (n : Nat) (j : Int) : Ordering :=
  compare (a * Nat.pow 10 i.toNat * Nat.pow 2 (-j).toNat)
    (n * Nat.pow 2 j.toNat * Nat.pow 10 (-i).toNat)

/-- The decimal `digits · 10 ^ exponent` lies in the interval of reals that round to the value. -/
def Binary.contains (x : Binary) (digits : Nat) (exponent : Int) : Bool :=
  let low := if x.narrowBelow then 4 * x.significand - 1 else 4 * x.significand - 2
  let high := 4 * x.significand + 2
  let ends := x.significand % 2 == 0
  let above := compareScaled digits exponent low (x.exponent - 2)
  let below := compareScaled digits exponent high (x.exponent - 2)
  (above == .gt || (ends && above == .eq)) && (below == .lt || (ends && below == .eq))

/-- The number of decimal digits of a positive number. -/
def digitCount (n : Nat) : Nat :=
  (Nat.toDigits 10 n).length

/-- The decimal exponent of the leading digit of a positive value: the greatest `e` with
`10 ^ e ≤ significand · 2 ^ exponent`. -/
def Binary.scale (x : Binary) : Int :=
  let numerator := x.significand * Nat.pow 2 x.exponent.toNat
  let denominator := Nat.pow 2 (-x.exponent).toNat
  let guess : Int := (digitCount numerator : Int) - (digitCount denominator : Int)
  if compareScaled 1 guess x.significand x.exponent == .gt then guess - 1 else guess

/-- `⌊value / 10 ^ k⌋`. -/
def Binary.floorAt (x : Binary) (k : Int) : Nat :=
  x.significand * Nat.pow 2 x.exponent.toNat * Nat.pow 10 (-k).toNat /
    (Nat.pow 2 (-x.exponent).toNat * Nat.pow 10 k.toNat)

/-- Of two neighbouring candidates `c` and `c + 1` on the grid `10 ^ k`, the one nearer the value;
a tie is broken as `tie` says. -/
def Binary.nearer (x : Binary) (tie : Tie) (c : Nat) (k : Int) : Nat :=
  match compareScaled (2 * c + 1) k (2 * x.significand) x.exponent with
  | .gt => c
  | .lt => c + 1
  | .eq =>
    match tie with
    | .toEven => if c % 2 == 0 then c else c + 1
    | .up => c + 1

/-- The decimal with `n` significant digits that the search picks, if one lies in the interval:
one of the two neighbours of the value on the grid of `n` digits. -/
def Binary.candidate (x : Binary) (tie : Tie) (n : Nat) : Option Decimal :=
  let k := x.scale - n + 1
  let c := x.floorAt k
  match x.contains c k, x.contains (c + 1) k with
  | true, true => some ⟨x.nearer tie c k, k⟩
  | true, false => some ⟨c, k⟩
  | false, true => some ⟨c + 1, k⟩
  | false, false => none

/-- Moves trailing zeros of the digits into the exponent. -/
def Decimal.trim (d : Decimal) : Decimal :=
  let zeros := ((Nat.toDigits 10 d.digits).reverse.takeWhile (· == '0')).length
  if d.digits == 0 then d else ⟨d.digits / Nat.pow 10 zeros, d.exponent + zeros⟩

/-- The shortest decimal that reads back as the value, the nearest of those, with ties broken as
`tie` says; zero is `0 · 10 ^ 0`. Seventeen digits always suffice; should none be found, the exact
value is returned. -/
def Binary.shortest (x : Binary) (tie : Tie) : Decimal :=
  if x.significand == 0 then ⟨0, 0⟩ else
  match (List.range 17).findSome? fun i => x.candidate tie (i + 1) with
  | some d => d.trim
  | none =>
    if x.exponent ≥ 0 then ⟨x.significand * Nat.pow 2 x.exponent.toNat, 0⟩
    else Decimal.trim ⟨x.significand * Nat.pow 5 (-x.exponent).toNat, x.exponent⟩

end Decomment.Number
