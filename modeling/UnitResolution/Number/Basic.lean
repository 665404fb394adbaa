import UnitResolution.Json.Basic

/-!
# Binary numbers

A `Number` is a floating-point number of double precision. `Number.ofDecimal` takes the number
nearest to a decimal one, the one with the even mantissa where two are equally near.
-/

namespace UnitResolution

/-- A floating-point number of double precision: `mantissa * 2 ^ exponent` with a sign, or one of
those that are no numbers. -/
inductive Number
  | nan
  | infinite (negative : Bool)
  | finite (negative : Bool) (mantissa : Nat) (exponent : Int)
  deriving Repr, DecidableEq

namespace Number

/-- The least exponent of two. -/
def leastExponent : Int := -1074

/-- Numbers from this mantissa on have the next exponent. -/
def mantissaBound : Nat := Nat.pow 2 53

/-- A quotient rounded to the nearest natural number, to the even one of two. -/
def roundQuotient (n d : Nat) : Nat :=
  let q := n / d
  let r := n % d
  if 2 * r < d then q else if 2 * r > d then q + 1 else if q % 2 = 0 then q else q + 1

/-- The quotient `n / d`, divided by a power of two, as a quotient. -/
def scaled (n d : Nat) (exponent : Int) : Nat × Nat :=
  if 0 ≤ exponent then (n, d * Nat.pow 2 exponent.toNat) else (n * Nat.pow 2 (-exponent).toNat, d)

/-- The number nearest to a quotient of natural numbers that are not zero. -/
def ofQuotient (negative : Bool) (n d : Nat) : Number :=
  let estimate : Int := (n.log2 : Int) - d.log2 - 52
  -- the mantissa has to lie below its bound; the estimate is exact or one too high
  let (numerator, denominator) := scaled n d (estimate - 1)
  let low := if 2 * mantissaBound ≤ 2 * numerator / denominator then estimate else estimate - 1
  let exponent := max low leastExponent
  let (a, b) := scaled n d exponent
  let mantissa := roundQuotient a b
  let (mantissa, exponent) :=
    if mantissa = mantissaBound then (mantissaBound / 2, exponent + 1) else (mantissa, exponent)
  if exponent > 971 then .infinite negative
  else if mantissa = 0 then .finite negative 0 0
  else .finite negative mantissa exponent

/-- The number of decimal digits of a natural number. -/
def digitCount (n : Nat) : Nat := (Nat.toDigits 10 n).length

/-- The number nearest to a decimal one. -/
def ofDecimal (x : Decimal) : Number :=
  let size : Int := x.exponent + digitCount x.digits
  if x.digits = 0 ∨ size < -330 then .finite x.negative 0 0
  else if size > 330 then .infinite x.negative
  else if 0 ≤ x.exponent then ofQuotient x.negative (x.digits * Nat.pow 10 x.exponent.toNat) 1
  else ofQuotient x.negative x.digits (Nat.pow 10 (-x.exponent).toNat)

/-- The number nearest to an integer. -/
def ofInt (n : Int) : Number := ofDecimal ⟨n < 0, n.natAbs, 0⟩

/-- The integer that a number is, if it is one. -/
def toInt? : Number → Option Int
  | finite negative mantissa exponent =>
      let size : Option Nat :=
        if 0 ≤ exponent then some (mantissa * Nat.pow 2 exponent.toNat)
        else if mantissa % Nat.pow 2 (-exponent).toNat = 0 then
          some (mantissa / Nat.pow 2 (-exponent).toNat)
        else none
      size.map fun n => if negative then -n else n
  | _ => none

end Number

end UnitResolution
