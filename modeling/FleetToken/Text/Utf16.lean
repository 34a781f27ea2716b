import FleetToken.Bytes.Basic
import FleetToken.Text.Basic

/-!
# UTF-16 and UTF-32

The wider encodings of text, in either byte order. A surrogate that has no partner is let
through as a code point of its own.

## Main definitions

- `Text.ofUtf16?`, `Text.ofUtf32?`: the text of some bytes, unless bytes are left over or a
  number lies beyond U+10FFFF.
-/

namespace FleetToken

/-- Which byte of a unit comes first. -/
inductive ByteOrder where
  /-- The most significant byte comes first. -/
  | big
  /-- The least significant byte comes first. -/
  | little
deriving DecidableEq

namespace ByteOrder

/-- The 16-bit units of some bytes, unless a byte is left over. -/
def units16? (order : ByteOrder) : Bytes → Option (List Nat)
  | [] => some []
  | [_] => none
  | a :: b :: rest =>
    let unit := match order with
      | .big => a.toNat * 0x100 + b.toNat
      | .little => b.toNat * 0x100 + a.toNat
    (order.units16? rest).map (unit :: ·)

/-- The 32-bit units of some bytes, unless bytes are left over. -/
def units32? (order : ByteOrder) : Bytes → Option (List Nat)
  | [] => some []
  | a :: b :: c :: d :: rest =>
    let unit := match order with
      | .big => ((a.toNat * 0x100 + b.toNat) * 0x100 + c.toNat) * 0x100 + d.toNat
      | .little => ((d.toNat * 0x100 + c.toNat) * 0x100 + b.toNat) * 0x100 + a.toNat
    (order.units32? rest).map (unit :: ·)
  | _ => none

end ByteOrder

namespace Text

/-- The code points of code units, where a high surrogate and a low one after it are a pair. -/
def joinPairs : Text → Text
  | [] => []
  | [c] => [c]
  | high :: low :: rest =>
    if high.isHighSurrogate && low.isLowSurrogate then CodePoint.ofPair high low :: joinPairs rest
    else high :: joinPairs (low :: rest)

/-- The text that bytes encode in UTF-16. -/
def ofUtf16? (order : ByteOrder) (bytes : Bytes) : Option Text :=
  (order.units16? bytes).map fun units => joinPairs (units.map CodePoint.ofNat)

/-- The text that bytes encode in UTF-32. -/
def ofUtf32? (order : ByteOrder) (bytes : Bytes) : Option Text := do
  let units ← order.units32? bytes
  if units.all (· < 0x110000) then return units.map CodePoint.ofNat else none

end Text

end FleetToken
