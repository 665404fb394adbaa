import UnitResolution.Number.Basic

/-!
# The text of a number

`Number.text` writes a number with the fewest digits that read back as the same number, and of
those with the digits nearest to it. Numbers from `1e-6` up to, but not including, `1e21` are
written without an exponent.
-/

namespace UnitResolution.Number

/-- The largest integer power of ten that is not larger than a positive number, as an exponent. It
lies within one of an estimate by the number of digits. -/
def decimalExponent (n d : Nat) : Int :=
  let estimate : Int := (digitCount n : Int) - digitCount d
  let reaches (e : Int) : Bool :=
    if 0 ≤ e then decide (d * Nat.pow 10 e.toNat ≤ n) else decide (d ≤ n * Nat.pow 10 (-e).toNat)
  if reaches estimate then estimate else estimate - 1

/-- The positive number `mantissa * 2 ^ exponent` as a quotient. -/
def quotientOf (mantissa : Nat) (exponent : Int) : Nat × Nat :=
  if 0 ≤ exponent then (mantissa * Nat.pow 2 exponent.toNat, 1)
  else (mantissa, Nat.pow 2 (-exponent).toNat)

/-- The decimal numbers with the power of ten `10 ^ place` that enclose a quotient, the nearer one
first. -/
def neighbours (n d : Nat) (place : Int) : List Nat :=
  let (a, b) :=
    if 0 ≤ place then (n, d * Nat.pow 10 place.toNat) else (n * Nat.pow 10 (-place).toNat, d)
  let q := a / b
  if 2 * (a % b) ≤ b then [q, q + 1] else [q + 1, q]

/-- The shortest decimal number that reads back as a positive number: its digits and the power of
ten they count. It is searched for from `count` digits on, with at most `more` digits more. -/
def searchShortest (mantissa : Nat) (exponent : Int) (n d : Nat) (top : Int) :
    (count more : Nat) → Nat × Int
  | _, 0 => (0, 0)
  | count, more + 1 =>
      let place := top + 1 - count
      let fits (digits : Nat) : Bool :=
        ofDecimal ⟨false, digits, place⟩ = .finite false mantissa exponent
      match (neighbours n d place).find? fits with
      | some digits => (digits, place)
      | none => searchShortest mantissa exponent n d top (count + 1) more

/-- The digits of the shortest decimal number, without zeros at the end, and the number of digits in
front of the point. -/
def shortest (mantissa : Nat) (exponent : Int) : List Char × Int :=
  let (n, d) := quotientOf mantissa exponent
  let (digits, place) := searchShortest mantissa exponent n d (decimalExponent n d) 1 18
  let all := Nat.toDigits 10 digits
  let kept := (all.reverse.dropWhile (· == '0')).reverse
  (kept, all.length + place)

/-- Digits with a point behind the first `point` of them. -/
def layOut (digits : List Char) (point : Int) : List Char :=
  let count : Int := digits.length
  if count ≤ point ∧ point ≤ 21 then digits ++ List.replicate (point - count).toNat '0'
  else if 0 < point ∧ point ≤ 21 then
    digits.take point.toNat ++ '.' :: digits.drop point.toNat
  else if -6 < point ∧ point ≤ 0 then
    '0' :: '.' :: List.replicate (-point).toNat '0' ++ digits
  else
    let e := point - 1
    let tail := 'e' :: (if e < 0 then '-' else '+') :: Nat.toDigits 10 e.natAbs
    match digits with
    | first :: second :: rest => first :: '.' :: second :: rest ++ tail
    | _ => digits ++ tail

/-- The text of a number. Zero has no sign. -/
def text : Number → String
  | nan => "NaN"
  | infinite negative => if negative then "-Infinity" else "Infinity"
  | finite negative mantissa exponent =>
      if mantissa = 0 then "0"
      else
        let (digits, point) := shortest mantissa exponent
        String.ofList ((if negative then ['-'] else []) ++ layOut digits point)

end UnitResolution.Number
