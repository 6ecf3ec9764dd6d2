import Decomment.Number.Nearest

/-!
Texts of binary64 values.

Both layouts write the shortest decimal of the value (`Binary.shortest`) and a `-` for a negative
sign, zero included.

* `compactText` writes the digits positionally when the value has at most sixteen digits before
  the point and its first digit stands at most five places after it, with `.0` after a whole
  number, and otherwise in scientific form, `d.ddde±x` with the exponent's sign always written
  (`1e+16`, `1.5e-7`).
  Ties go to the even digit.
* `plainText` always writes the digits positionally, with `.0` after a whole number. Ties go up.
  An infinity is `inf` or `-inf`, and a NaN is `NaN` whatever its sign.
-/

namespace Decomment.Number

/-- `n` zeros. -/
def zeros (n : Nat) : String :=
  String.ofList (List.replicate n '0')

/-- The text of a decimal exponent, with its sign always written. -/
def exponentText (e : Int) : String :=
  (if e < 0 then "-" else "+") ++ toString e.natAbs

/-- The sign of a value's text. -/
def signText (bits : UInt64) : String :=
  if signOf bits then "-" else ""

/-- The compact layout of a finite value. -/
def compactText (bits : UInt64) : String :=
  let d := (Binary.ofBits bits).shortest .toEven
  if d.digits == 0 then signText bits ++ "0.0" else
  let digits := String.ofList (Nat.toDigits 10 d.digits)
  let length : Int := digits.length
  let k := d.exponent
  let kk := length + k
  let body :=
    if 0 ≤ k && kk ≤ 16 then digits ++ zeros k.toNat ++ ".0"
    else if 0 < kk && kk ≤ 16 then
      String.ofList (digits.toList.take kk.toNat) ++ "." ++ String.ofList (digits.toList.drop kk.toNat)
    else if -5 < kk && kk ≤ 0 then "0." ++ zeros (-kk).toNat ++ digits
    else if length == 1 then digits ++ "e" ++ exponentText (kk - 1)
    else
      String.ofList (digits.toList.take 1) ++ "." ++ String.ofList (digits.toList.drop 1) ++ "e" ++
        exponentText (kk - 1)
  signText bits ++ body

/-- The plain positional layout of a value. -/
def plainText (bits : UInt64) : String :=
  if isNaN bits then "NaN" else
  if isNonFinite bits then signText bits ++ "inf" else
  let d := (Binary.ofBits bits).shortest .up
  if d.digits == 0 then signText bits ++ "0.0" else
  let digits := String.ofList (Nat.toDigits 10 d.digits)
  let length : Int := digits.length
  let k := d.exponent
  let kk := length + k
  let body :=
    if 0 ≤ k then digits ++ zeros k.toNat ++ ".0"
    else if 0 < kk then
      String.ofList (digits.toList.take kk.toNat) ++ "." ++ String.ofList (digits.toList.drop kk.toNat)
    else "0." ++ zeros (-kk).toNat ++ digits
  signText bits ++ body

end Decomment.Number
