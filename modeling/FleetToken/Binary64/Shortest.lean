import FleetToken.Binary64.Basic
import FleetToken.Text.Basic

/-!
# Shortest decimals

A finite binary64 number is written with the fewest decimal digits that read back to it, and of
those the nearest. Numbers from 0.0001 up to below 10^16 are written positionally, others with an
exponent of at least two digits.

## Main definitions

- `Binary64.shortest`: digits and exponent of the shortest decimal.
- `Binary64.toText`: the written number.
-/

namespace FleetToken.Binary64

/-- The decimal `digits * 10 ^ exponent`. -/
structure Decimal where
  /-- The digits as one number. -/
  digits : Nat
  /-- The power of ten. -/
  exponent : Int
deriving DecidableEq

namespace Decimal

/-- Whether the decimal is read as `x`, which is positive. -/
def readsAs (d : Decimal) (x : Binary64) : Bool :=
  ofDecimal false d.digits d.exponent == x

/-- Moves up to `count` trailing zeros from the digits to the exponent. -/
def stripZeros : Nat → Decimal → Decimal
  | 0, d => d
  | count + 1, d =>
    if d.digits ≠ 0 ∧ d.digits % 10 = 0 then stripZeros count ⟨d.digits / 10, d.exponent + 1⟩
    else d

end Decimal

/-- The least `k` with `num / den < 10 ^ k`, near an estimate from the binary exponent. -/
def decimalScale (num den : Nat) : Int :=
  let estimate := leadingExponent num den * 30103 / 100000
  let below (k : Int) : Bool := num * Nat.pow 10 (-k).toNat < den * Nat.pow 10 k.toNat
  -- The constant is the logarithm of two, so the estimate is off by little.
  if below (estimate - 1) then estimate - 1
  else if below estimate then estimate
  else if below (estimate + 1) then estimate + 1
  else estimate + 2

/-- The two multiples of `10 ^ exponent` around `num / den` that read as `x`: the nearer one, or
the even one of two equally near. -/
def onGrid? (x : Binary64) (num den : Nat) (exponent : Int) : Option Decimal :=
  let scaledNum := num * Nat.pow 10 (-exponent).toNat
  let scaledDen := den * Nat.pow 10 exponent.toNat
  let low : Decimal := ⟨scaledNum / scaledDen, exponent⟩
  let high : Decimal := ⟨low.digits + 1, exponent⟩
  match low.readsAs x, high.readsAs x with
  | true, true =>
    match compare (2 * (scaledNum % scaledDen)) scaledDen with
    | .lt => some low
    | .gt => some high
    | .eq => if low.digits % 2 = 0 then some low else some high
  | true, false => some low
  | false, true => some high
  | false, false => none

/-- The decimal with the fewest digits that reads as the positive number `num / den`, which is
`x`; the exact one if none of up to seventeen digits does. -/
def shortest (x : Binary64) (num den : Nat) : Decimal :=
  let scale := decimalScale num den
  match (List.range 17).findSome? fun (n : Nat) =>
      onGrid? x num den (scale - (n + 1)) with
  | some d => d.stripZeros 20
  -- A quotient by a power of two is a decimal with as many places.
  | none => ⟨num * Nat.pow 5 den.log2, -(den.log2 : Int)⟩

/-- The layout of a decimal whose digits are `digits` and whose point stands `point` places after
the first of them. -/
def layout (digits : Text) (point : Int) : Text :=
  let zeros (n : Int) : Text := List.replicate n.toNat (CodePoint.ofChar '0')
  let dot := CodePoint.ofChar '.'
  if -4 < point ∧ point ≤ 0 then Text.ofString "0." ++ zeros (-point) ++ digits
  else if 0 < point ∧ point ≤ 16 then
    if (digits.length : Int) ≤ point then
      digits ++ zeros (point - digits.length) ++ Text.ofString ".0"
    else digits.take point.toNat ++ dot :: digits.drop point.toNat
  else
    let exponent := point - 1
    let exponentDigits := Text.ofNat exponent.natAbs
    let fraction := digits.drop 1
    digits.take 1 ++ (if fraction.isEmpty then [] else dot :: fraction)
      ++ [CodePoint.ofChar 'e', CodePoint.ofChar (if exponent < 0 then '-' else '+')]
      ++ zeros (2 - exponentDigits.length) ++ exponentDigits

/-- The written form of a number: `nan`, `inf`, or the shortest decimal. -/
def toText (x : Binary64) : Text :=
  let sign (negative : Bool) : Text := if negative then [CodePoint.ofChar '-'] else []
  match x.view with
  | .nan => Text.ofString "nan"
  | .infinite negative => sign negative ++ Text.ofString "inf"
  | .finite negative significand exponent =>
    if significand = 0 then sign negative ++ Text.ofString "0.0"
    else
      let num := significand * Nat.pow 2 exponent.toNat
      let den := Nat.pow 2 (-exponent).toNat
      let d := shortest (ofRatio false num den) num den
      let digits := Text.ofNat d.digits
      sign negative ++ layout digits (d.exponent + digits.length)

end FleetToken.Binary64
