import FleetToken.Bytes.Hex
import FleetToken.Error
import FleetToken.Text.Blank
import FleetToken.Text.Utf8

/-!
# Seeds

The private half of an Ed25519 key is kept as the hexadecimal text of its seed. Such text comes as
text or as the bytes of a file.

## Main definitions

- `KeyMaterial`: text or bytes.
- `KeyMaterial.isEncodedKey`: whether it is the hexadecimal form of thirty-two bytes.
- `KeyMaterial.decodeSeed`: the bytes that it writes, of any number.
- `KeyPair.ofSeed`: the key pair of a seed.
-/

namespace FleetToken

/-- Key material as it is handed in. -/
inductive KeyMaterial where
  /-- Text. -/
  | text (t : Text)
  /-- The bytes of a file. -/
  | bytes (b : Bytes)
deriving DecidableEq

namespace KeyMaterial

/-- The text of key material; bytes must be ASCII. -/
def text? : KeyMaterial → Option Text
  | .text t => some t
  | .bytes b => if b.all (· < 0x80) then some (b.map fun byte => .ofNat byte.toNat) else none

/-- Whether text is the hexadecimal form of thirty-two bytes, in either letter case and with
nothing around it. -/
def isEncodedKeyText (t : Text) : Bool :=
  t.length == 2 * Ed25519.keySize && t.all (·.hexValue?.isSome)

/-- Whether key material is the hexadecimal form of a seed or of a public key. -/
def isEncodedKey (m : KeyMaterial) : Bool :=
  m.text?.any isEncodedKeyText

/-- The bytes that seed text writes, with blanks around it. Text that is no hexadecimal is refused
before anything is said about its length. -/
def decodeSeed (m : KeyMaterial) : Except TokenError Bytes :=
  match m.text? with
  | none => .error (.invalidKeyMaterial .seedNotAscii)
  | some t =>
    let encoded := t.trim
    if encoded = [] then .error (.invalidKeyMaterial .seedEmpty)
    else
      (Hex.decode encoded).mapError fun position => .invalidKeyMaterial (.seedNotHex position)

end KeyMaterial

/-- The seed of some bytes. -/
def Ed25519.Seed.ofBytes (bytes : Bytes) : Except TokenError Ed25519.Seed :=
  match Ed25519.Seed.ofBytes? bytes with
  | some seed => .ok seed
  | none => .error .invalidSeedLength

/-- The Ed25519 key pair of the bytes of a seed. -/
def KeyPair.ofSeed (bytes : Bytes) : Except TokenError KeyPair :=
  (Ed25519.Seed.ofBytes bytes).map fun seed => .ofPrivate (.ed25519 seed)

/-- The seed that seed text writes. -/
def KeyMaterial.seed (m : KeyMaterial) : Except TokenError Ed25519.Seed := do
  Ed25519.Seed.ofBytes (← m.decodeSeed)

end FleetToken
