import FleetToken.Bytes.Basic
import FleetToken.Digest.Sha2
import FleetToken.Number.Modular

/-!
# RSA signatures

Signatures of the form RSASSA-PKCS1-v1_5: the digest of the message under its algorithm's
identifier fills a block of the size of the modulus, and the block is raised to the private
exponent.

## Main definitions

- `Rsa.PublicKey`, `Rsa.PrivateKey`: keys as numbers.
- `Rsa.PrivateKey.IsConsistent`: the numbers of a private key belong together.
- `Rsa.sign?`, `Rsa.verify`: signatures.
-/

namespace FleetToken.Rsa

/-- The public half of a key. -/
structure PublicKey where
  modulus : Nat
  exponent : Nat
deriving DecidableEq

/-- The private half of a key, which holds the public one. -/
structure PrivateKey where
  publicKey : PublicKey
  exponent : Nat
  /-- The first prime factor of the modulus. -/
  prime₁ : Nat
  /-- The second prime factor of the modulus. -/
  prime₂ : Nat
  /-- The private exponent modulo `prime₁ - 1`. -/
  exponent₁ : Nat
  /-- The private exponent modulo `prime₂ - 1`. -/
  exponent₂ : Nat
  /-- The inverse of `prime₂` modulo `prime₁`. -/
  coefficient : Nat
deriving DecidableEq

/-- The numbers of a private key belong together. -/
def PrivateKey.IsConsistent (key : PrivateKey) : Bool :=
  let n := key.publicKey.modulus
  let e := key.publicKey.exponent
  let p := key.prime₁
  let q := key.prime₂
  n == p * q && isProbablePrime p && isProbablePrime q && 1 < e && e % 2 == 1
    && e * key.exponent % (p - 1) == 1 % (p - 1) && e * key.exponent % (q - 1) == 1 % (q - 1)
    && key.exponent₁ == key.exponent % (p - 1) && key.exponent₂ == key.exponent % (q - 1)
    && key.coefficient * q % p == 1 % p

/-- The digests that a signature may be made over. -/
inductive Hash where
  | sha256
  | sha384
  | sha512
deriving DecidableEq

/-- The digest of a message. -/
def Hash.digest : Hash → Bytes → Bytes
  | .sha256 => Digest.sha256
  | .sha384 => Digest.sha384
  | .sha512 => Digest.sha512

/-- The DER header that names the digest in front of its bytes. -/
def Hash.header : Hash → Bytes
  | .sha256 => [0x30, 0x31, 0x30, 0x0D, 0x06, 0x09, 0x60, 0x86, 0x48, 0x01, 0x65, 0x03, 0x04, 0x02,
      0x01, 0x05, 0x00, 0x04, 0x20]
  | .sha384 => [0x30, 0x41, 0x30, 0x0D, 0x06, 0x09, 0x60, 0x86, 0x48, 0x01, 0x65, 0x03, 0x04, 0x02,
      0x02, 0x05, 0x00, 0x04, 0x30]
  | .sha512 => [0x30, 0x51, 0x30, 0x0D, 0x06, 0x09, 0x60, 0x86, 0x48, 0x01, 0x65, 0x03, 0x04, 0x02,
      0x03, 0x05, 0x00, 0x04, 0x40]

/-- The bytes of the modulus. -/
def PublicKey.size (key : PublicKey) : Nat :=
  key.modulus.log2 / 8 + 1

/-- The block of `size` bytes that is signed for a message; none if the digest does not fit. -/
def block? (size : Nat) (hash : Hash) (message : Bytes) : Option Bytes :=
  let content := hash.header ++ hash.digest message
  if content.length + 11 ≤ size then
    some (0x00 :: 0x01 :: List.replicate (size - content.length - 3) 0xFF ++ 0x00 :: content)
  else none

/-- The signature of a message; none if the modulus is too small for the digest. -/
def sign? (key : PrivateKey) (hash : Hash) (message : Bytes) : Option Bytes :=
  let size := key.publicKey.size
  (block? size hash message).map fun block =>
    Bytes.ofNatBig size (powMod block.toNatBig key.exponent key.publicKey.modulus)

/-- Whether a signature belongs to a message under a public key. -/
def verify (key : PublicKey) (hash : Hash) (message signature : Bytes) : Bool :=
  let number := signature.toNatBig
  signature.length == key.size && number < key.modulus
    && block? key.size hash message
      == some (Bytes.ofNatBig key.size (powMod number key.exponent key.modulus))

end FleetToken.Rsa
