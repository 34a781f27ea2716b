import FleetToken.Bytes.Basic

/-!
# Base64

Three bytes are four sextets, and a sextet is written as one ASCII byte. A strict reader accepts
only what the writer produces, with or without padding. A lenient reader skips foreign bytes and
takes either alphabet.

## Main definitions

- `Base64.encode`: the unpadded form.
- `Base64.decode?`: the strict reader with optional padding.
- `Base64.decodePadded?`: the strict reader with obligatory padding.
- `Base64.decodeLenient?`: the lenient reader.
-/

namespace FleetToken.Base64

/-- The two alphabets, which differ in the last two sextets. -/
inductive Alphabet where
  /-- Plus and solidus. -/
  | standard
  /-- Hyphen and low line. -/
  | url
deriving DecidableEq

/-- The sextets of some bytes; bits missing at the end are zero. -/
def toSextets : Bytes → List Nat
  | [] => []
  | [a] => [a.toNat / 4, a.toNat % 4 * 16]
  | [a, b] => [a.toNat / 4, a.toNat % 4 * 16 + b.toNat / 16, b.toNat % 16 * 4]
  | a :: b :: c :: rest =>
    a.toNat / 4 :: (a.toNat % 4 * 16 + b.toNat / 16) :: (b.toNat % 16 * 4 + c.toNat / 64)
      :: c.toNat % 64 :: toSextets rest

/-- The whole bytes of some sextets; bits left over are dropped. -/
def ofSextets : List Nat → Bytes
  | [] => []
  | [_] => []
  | [a, b] => [UInt8.ofNat (a * 4 + b / 16)]
  | [a, b, c] => [UInt8.ofNat (a * 4 + b / 16), UInt8.ofNat (b % 16 * 16 + c / 4)]
  | a :: b :: c :: d :: rest =>
    UInt8.ofNat (a * 4 + b / 16) :: UInt8.ofNat (b % 16 * 16 + c / 4)
      :: UInt8.ofNat (c % 4 * 64 + d) :: ofSextets rest

/-- The whole bytes of some sextets, unless bits other than zeros are left over. -/
def ofSextets? (sextets : List Nat) : Option Bytes :=
  let bytes := ofSextets sextets
  -- Writing the bytes again shows whether the bits left over were zeros.
  if toSextets bytes = sextets then some bytes else none

/-- The padding byte, an equals sign. -/
def padding : UInt8 := 0x3D

/-- The byte that writes a sextet. -/
def symbol (alphabet : Alphabet) (sextet : Nat) : UInt8 :=
  if sextet < 26 then UInt8.ofNat (0x41 + sextet)
  else if sextet < 52 then UInt8.ofNat (0x61 + (sextet - 26))
  else if sextet < 62 then UInt8.ofNat (0x30 + (sextet - 52))
  else
    match alphabet with
    | .standard => if sextet = 62 then 0x2B else 0x2F
    | .url => if sextet = 62 then 0x2D else 0x5F

/-- The sextet that a byte writes. -/
def sextet? (alphabet : Alphabet) (b : UInt8) : Option Nat :=
  if 0x41 ≤ b && b ≤ 0x5A then some (b.toNat - 0x41)
  else if 0x61 ≤ b && b ≤ 0x7A then some (b.toNat - 0x61 + 26)
  else if 0x30 ≤ b && b ≤ 0x39 then some (b.toNat - 0x30 + 52)
  else
    match alphabet with
    | .standard => if b = 0x2B then some 62 else if b = 0x2F then some 63 else none
    | .url => if b = 0x2D then some 62 else if b = 0x5F then some 63 else none

/-- The sextet that a byte writes in one of the two alphabets. -/
def anySextet? (b : UInt8) : Option Nat :=
  (sextet? .url b).or (sextet? .standard b)

/-- The written form without padding. -/
def encode (alphabet : Alphabet) (bytes : Bytes) : Bytes :=
  (toSextets bytes).map (symbol alphabet)

/-- How much padding fills a body of `length` bytes to a multiple of four. -/
def paddingFor (length : Nat) : Bytes :=
  List.replicate ((4 - length % 4) % 4) padding

/-- The written form with padding. -/
def encodePadded (alphabet : Alphabet) (bytes : Bytes) : Bytes :=
  let body := encode alphabet bytes
  body ++ paddingFor body.length

/-- What stands before the padding, if all from the first padding byte on is padding of the
right length. -/
def body? (written : Bytes) : Option Bytes :=
  let body := written.takeWhile (· ≠ padding)
  if written = body ++ paddingFor body.length then some body else none

/-- The bytes that the strict form without padding writes. -/
def decodeUnpadded? (alphabet : Alphabet) (body : Bytes) : Option Bytes :=
  body.mapM (sextet? alphabet) >>= ofSextets?

/-- The bytes that the strict form with padding writes. -/
def decodePadded? (alphabet : Alphabet) (written : Bytes) : Option Bytes :=
  body? written >>= decodeUnpadded? alphabet

/-- The bytes that a strict form writes, with the right padding or with none. -/
def decode? (alphabet : Alphabet) (written : Bytes) : Option Bytes :=
  if padding ∈ written then decodePadded? alphabet written else decodeUnpadded? alphabet written

/-- The sextets that a lenient reader finds. Foreign bytes are skipped. `filled` sextets stand in
the current group of four, and `pads` padding bytes after them; padding that completes a group
ends the text. -/
def lenientSextets? (filled pads : Nat) : Bytes → Option (List Nat)
  | [] => if filled = 0 then some [] else none
  | b :: rest =>
    if b = padding then
      -- Padding is foreign where no byte is complete yet.
      if filled < 2 then lenientSextets? filled pads rest
      else if 4 ≤ filled + (pads + 1) then some []
      else lenientSextets? filled (pads + 1) rest
    else
      match anySextet? b with
      | none => lenientSextets? filled pads rest
      | some sextet => (lenientSextets? ((filled + 1) % 4) 0 rest).map (sextet :: ·)

/-- The bytes that a lenient reader finds in text of either alphabet, to which padding up to a
multiple of four is added first. -/
def decodeLenient? (written : Bytes) : Option Bytes :=
  (lenientSextets? 0 0 (written ++ paddingFor written.length)).map ofSextets

end FleetToken.Base64
