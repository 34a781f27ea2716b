import FleetToken.Bytes.Basic
import FleetToken.Text.Basic

/-!
# Hexadecimal text

Seeds and raw public keys are written as two hexadecimal digits a byte. When such text is read,
either letter case will do and blanks may stand between bytes, never inside one.

## Main definitions

- `Hex.encode`: the digits of some bytes, in lower case.
- `Hex.decode`: the bytes of some text, or the place of the first code point that does not fit.
-/

namespace FleetToken.Hex

/-- Two digits for each byte, in lower case. -/
def encode (bytes : Bytes) : Text :=
  bytes.flatMap fun b => [CodePoint.hexDigit (b.toNat / 16), CodePoint.hexDigit (b.toNat % 16)]

/-- The ASCII white space that may stand between bytes. -/
def isGap (c : CodePoint) : Bool :=
  (0x09 ≤ c.val && c.val ≤ 0x0D) || c.val == 0x20

/-- Reads bytes from text whose first code point is at `position`. -/
def decodeFrom (position : Nat) : Text → Except Nat Bytes
  | [] => .ok []
  | [c] =>
    if isGap c then .ok []
    else if c.hexValue?.isSome then .error (position + 1)
    else .error position
  | c :: d :: rest =>
    if isGap c then decodeFrom (position + 1) (d :: rest)
    else
      match c.hexValue?, d.hexValue? with
      | none, _ => .error position
      | some _, none => .error (position + 1)
      | some high, some low =>
        (decodeFrom (position + 2) rest).map (UInt8.ofNat (high * 16 + low) :: ·)

/-- The bytes that text writes. A code point beyond ASCII is reported first; otherwise the
position of the first code point that is not the digit it should be, or of the end of the text
when half a byte is left over. -/
def decode (t : Text) : Except Nat Bytes :=
  match t.findIdx? (fun c => 0x80 ≤ c.val) with
  | some position => .error position
  | none => decodeFrom 0 t

end FleetToken.Hex
