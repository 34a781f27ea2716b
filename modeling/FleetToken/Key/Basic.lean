import FleetToken.Crypto.Ed25519
import FleetToken.Crypto.Rsa

/-!
# Keys

Tokens are signed with Ed25519 or RSA keys. A key pair names its family, which decides the
algorithm written into tokens; the label is what the pair's maker says and may be wrong.

## Main definitions

- `KeyFamily`, with `KeyFamily.algorithm`.
- `PublicKey`, `PrivateKey`: halves of keys of the two families.
- `KeyPair`: a public half, a label and perhaps the private half.
- `LoadedKey`: a key of any kind; `KeyArgument`: what a caller may hand in as a key.
-/

namespace FleetToken

/-- The families of keys that tokens are signed with. -/
inductive KeyFamily where
  | ed25519
  | rsa
deriving DecidableEq

namespace KeyFamily

/-- The name that a pair is labelled with. -/
def name : KeyFamily → String
  | .ed25519 => "ed25519"
  | .rsa => "rsa"

/-- The algorithm that a pair of this family signs with. -/
def algorithm : KeyFamily → String
  | .ed25519 => "EdDSA"
  | .rsa => "RS256"

end KeyFamily

/-- The public half of a key. -/
inductive PublicKey where
  | ed25519 (key : Ed25519.PublicKey)
  | rsa (key : Rsa.PublicKey)
deriving DecidableEq

/-- The private half of a key. -/
inductive PrivateKey where
  | ed25519 (seed : Ed25519.Seed)
  | rsa (key : Rsa.PrivateKey)
deriving DecidableEq

/-- The family that a public half really is of. -/
def PublicKey.family : PublicKey → KeyFamily
  | .ed25519 _ => .ed25519
  | .rsa _ => .rsa

/-- The family that a private half really is of. -/
def PrivateKey.family : PrivateKey → KeyFamily
  | .ed25519 _ => .ed25519
  | .rsa _ => .rsa

/-- The public half that belongs to a private one. -/
def PrivateKey.publicKey : PrivateKey → PublicKey
  | .ed25519 seed => .ed25519 seed.publicKey
  | .rsa key => .rsa key.publicKey

/-- A public key under a family label and, when available, the private half. -/
structure KeyPair where
  /-- The family that the pair is labelled with. -/
  family : KeyFamily
  /-- The public half. -/
  publicKey : PublicKey
  /-- The private half. -/
  privateKey : Option PrivateKey
deriving DecidableEq

/-- The pair of a private half, under its own family. -/
def KeyPair.ofPrivate (key : PrivateKey) : KeyPair :=
  ⟨key.family, key.publicKey, some key⟩

/-- The pair of a public half alone, under its own family. -/
def KeyPair.ofPublic (key : PublicKey) : KeyPair :=
  ⟨key.family, key, none⟩

/-- Kinds of keys that no token is signed with. -/
inductive ForeignKind where
  /-- Keys on elliptic curves in Weierstrass form. -/
  | ec
  | dsa
  | dh
  | ed448
  | x25519
  | x448
deriving DecidableEq

def ForeignKind.name : ForeignKind → String
  | .ec => "EC"
  | .dsa => "DSA"
  | .dh => "DH"
  | .ed448 => "Ed448"
  | .x25519 => "X25519"
  | .x448 => "X448"

/-- The two halves of a key. -/
inductive KeyHalf where
  | publicHalf
  | privateHalf
deriving DecidableEq

def KeyHalf.name : KeyHalf → String
  | .publicHalf => "PublicKey"
  | .privateHalf => "PrivateKey"

/-- A key of any kind. -/
inductive LoadedKey where
  /-- A public half that can verify tokens. -/
  | publicHalf (key : PublicKey)
  /-- A private half that can sign tokens. -/
  | privateHalf (key : PrivateKey)
  /-- A key that is of no use for tokens. -/
  | foreign (kind : ForeignKind) (half : KeyHalf)
deriving DecidableEq

def LoadedKey.typeName : LoadedKey → String
  | .publicHalf (.ed25519 _) => "Ed25519PublicKey"
  | .publicHalf (.rsa _) => "RSAPublicKey"
  | .privateHalf (.ed25519 _) => "Ed25519PrivateKey"
  | .privateHalf (.rsa _) => "RSAPrivateKey"
  | .foreign kind half => kind.name ++ half.name

/-- What a caller may hand in as a key. -/
inductive KeyArgument where
  /-- Nothing. -/
  | absent
  /-- A key pair, whose label is taken at its word. -/
  | pair (pair : KeyPair)
  /-- A bare key of any kind. -/
  | bare (key : LoadedKey)
  /-- A value that is no key, by the name of its type. -/
  | other (typeName : String)

def KeyArgument.typeName : KeyArgument → String
  | .absent => "NoneType"
  | .pair _ => "KeyPair"
  | .bare key => key.typeName
  | .other typeName => typeName

end FleetToken
