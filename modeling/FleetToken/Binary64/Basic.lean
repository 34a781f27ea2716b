/-!
# Binary64 numbers

A 64-bit binary floating-point number is kept as its bits. Values are rounded from exact
quotients and decimals to the nearest number, a tie going to the even significand.

## Main definitions

- `Binary64`: the bits, and `Binary64.view`: the value that they stand for.
- `Binary64.ofRatio`, `Binary64.ofDecimal`: the number nearest to an exact value.
- `Binary64.truncate?`: the integer part of a finite number.
-/

namespace FleetToken

/-- A 64-bit binary floating-point number. -/
structure Binary64 where
  /-- Sign, eleven bits of exponent and fifty-two bits of fraction. -/
  bits : UInt64
deriving DecidableEq

namespace Binary64

/-- The value of a binary64 number. -/
inductive View where
  /-- The number `± significand * 2 ^ exponent`. -/
  | finite (negative : Bool) (significand : Nat) (exponent : Int)
  /-- An infinity. -/
  | infinite (negative : Bool)
  /-- No number. -/
  | nan

/-- The value that the bits stand for. -/
def view (x : Binary64) : View :=
  let n := x.bits.toNat
  let negative := n / 0x8000000000000000 == 1
  let biased : Nat := n / 0x10000000000000 % 0x800
  let fraction : Nat := n % 0x10000000000000
  if biased = 0x7FF then
    if fraction = 0 then .infinite negative else .nan
  -- Subnormal numbers have no hidden digit.
  else if biased = 0 then .finite negative fraction (-1074)
  else .finite negative (0x10000000000000 + fraction) ((biased : Int) - 1075)

/-- The number with the given sign and magnitude bits. -/
def ofMagnitude (negative : Bool) (magnitude : Nat) : Binary64 :=
  ⟨UInt64.ofNat ((if negative then 0x8000000000000000 else 0) + magnitude)⟩

/-- The magnitude bits of infinity, above those of all finite numbers. -/
def infinityMagnitude : Nat := 0x7FF0000000000000

/-- The infinity of the given sign. -/
def infinity (negative : Bool) : Binary64 :=
  ofMagnitude negative infinityMagnitude

/-- The quiet number that is no number. -/
def notANumber : Binary64 :=
  ofMagnitude false (infinityMagnitude + 0x8000000000000)

/-- Whether the number is neither infinite nor no number. -/
def isFinite (x : Binary64) : Bool :=
  match x.view with
  | .finite .. => true
  | _ => false

/-- The quotient rounded to the nearest integer, a tie going to the even one. -/
def roundHalfEven (num den : Nat) : Nat :=
  let quotient := num / den
  match compare (2 * (num % den)) den with
  | .lt => quotient
  | .gt => quotient + 1
  | .eq => if quotient % 2 = 0 then quotient else quotient + 1

/-- The exponent of the leading binary digit of a positive quotient. -/
def leadingExponent (num den : Nat) : Int :=
  let estimate : Int := (num.log2 : Int) - den.log2
  -- The logarithms are cut, so the quotient may lie below its estimate.
  if den * Nat.pow 2 estimate.toNat ≤ num * Nat.pow 2 (-estimate).toNat then estimate
  else estimate - 1

/-- The number nearest to `± num / den`, for a positive `den`; beyond the largest finite number
it is infinite. -/
def ofRatio (negative : Bool) (num den : Nat) : Binary64 :=
  if num = 0 then ofMagnitude negative 0
  else
    -- Subnormal numbers all have the least exponent.
    let exponent := max (leadingExponent num den - 52) (-1074)
    let significand :=
      roundHalfEven (num * Nat.pow 2 (-exponent).toNat) (den * Nat.pow 2 exponent.toNat)
    -- A significand with one digit too many carries into the exponent.
    ofMagnitude negative
      (min ((exponent + 1074).toNat * 0x10000000000000 + significand) infinityMagnitude)

/-- The number nearest to a quotient with a positive denominator. -/
def ofQuotient (num : Int) (den : Nat) : Binary64 :=
  ofRatio (num < 0) num.natAbs den

/-- The number nearest to `± digits * 10 ^ exponent`. Values far out of range are settled without
their power of ten. -/
def ofDecimal (negative : Bool) (digits : Nat) (exponent : Int) : Binary64 :=
  if digits = 0 then ofMagnitude negative 0
  else if 310 ≤ exponent then infinity negative
  else if exponent + (digits.log2 / 3 + 1 : Nat) < -330 then ofMagnitude negative 0
  else ofRatio negative (digits * Nat.pow 10 exponent.toNat) (Nat.pow 10 (-exponent).toNat)

/-- The number nearest to an integer. -/
def ofInt (n : Int) : Binary64 :=
  ofQuotient n 1

/-- The exact value of a finite number as a numerator and a positive denominator. -/
def ratio? (x : Binary64) : Option (Int × Nat) :=
  match x.view with
  | .finite negative significand exponent =>
    let num := significand * Nat.pow 2 exponent.toNat
    some (if negative then -(num : Int) else num, Nat.pow 2 (-exponent).toNat)
  | _ => none

/-- The integer part of a finite number, cut toward zero. -/
def truncate? (x : Binary64) : Option Int :=
  x.ratio?.map fun (num, den) => num.tdiv den

end Binary64

end FleetToken
