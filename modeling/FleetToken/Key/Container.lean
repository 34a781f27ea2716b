import FleetToken.Crypto.Der
import FleetToken.Crypto.Pem
import FleetToken.Key.Basic

/-!
# Key containers

Keys are kept in PEM blocks: public ones as SubjectPublicKeyInfo or as the two numbers of an RSA
key, private ones as PrivateKeyInfo or in the forms of their own of RSA, DSA and elliptic-curve
keys. All kinds are recognised, so that a key of a foreign kind can be named in an error.

The numbers of foreign keys are not checked, apart from the length of what is stored.

## Main definitions

- `PemFault`: why a document holds no key.
- `Container.rsaPublic?`, `Container.rsaPrivate?`: the keys in the forms of RSA.
- `LoadedKey.ofPublicPem`, `LoadedKey.ofPrivatePem`, `LoadedKey.ofPem`: the key of a document.
- `Rsa.PublicKey.toPem`: the document of an RSA key.
-/

namespace FleetToken

/-- Why a PEM document yields no key. -/
inductive PemFault where
  /-- There is no block of the right label, or it does not hold a proper key. -/
  | malformed
  /-- The key is encrypted. -/
  | encrypted
  /-- The algorithm or the curve is not known. -/
  | unsupported
deriving DecidableEq

namespace Container

/-- The key kinds that an algorithm identifier can name. -/
inductive Algorithm where
  | rsa
  /-- Keys on a named curve whose points have coordinates of `size` bytes. -/
  | ec (size : Nat)
  | dsa
  | dh
  | ed25519
  /-- Foreign keys that are strings of `size` bytes. -/
  | raw (kind : ForeignKind) (size : Nat)

/-- The named curves with the bytes of a coordinate. -/
def curves : List (Bytes × Nat) :=
  [([0x2A, 0x86, 0x48, 0xCE, 0x3D, 0x03, 0x01, 0x01], 24),
   ([0x2A, 0x86, 0x48, 0xCE, 0x3D, 0x03, 0x01, 0x07], 32),
   ([0x2B, 0x81, 0x04, 0x00, 0x21], 28),
   ([0x2B, 0x81, 0x04, 0x00, 0x0A], 32),
   ([0x2B, 0x81, 0x04, 0x00, 0x22], 48),
   ([0x2B, 0x81, 0x04, 0x00, 0x23], 66),
   ([0x2B, 0x24, 0x03, 0x03, 0x02, 0x08, 0x01, 0x01, 0x07], 32),
   ([0x2B, 0x24, 0x03, 0x03, 0x02, 0x08, 0x01, 0x01, 0x0B], 48),
   ([0x2B, 0x24, 0x03, 0x03, 0x02, 0x08, 0x01, 0x01, 0x0D], 64)]

/-- The bytes of a coordinate on the curve that some parameters name. -/
def curveSize (parameters : List Der.Element) : Except PemFault Nat :=
  match parameters with
  | [⟨0x06, curve⟩] =>
    match curves.lookup curve with
    | some size => .ok size
    | none => .error (if Der.isIdentifier curve then .unsupported else .malformed)
  | _ => .error .malformed

/-- The identifier of RSA keys. -/
def rsaIdentifier : Bytes := [0x2A, 0x86, 0x48, 0x86, 0xF7, 0x0D, 0x01, 0x01, 0x01]

/-- The identifier of RSA keys for the probabilistic signature scheme. -/
def rsaPssIdentifier : Bytes := [0x2A, 0x86, 0x48, 0x86, 0xF7, 0x0D, 0x01, 0x01, 0x0A]

/-- The algorithm of an identifier and its parameters. Parameters that are not known are one
element at most. -/
def algorithmOf (identifier : Bytes) (parameters : List Der.Element) : Except PemFault Algorithm :=
  let bare (algorithm : Algorithm) : Except PemFault Algorithm :=
    if parameters = [] then .ok algorithm else .error .malformed
  let sequenced (algorithm : Algorithm) : Except PemFault Algorithm :=
    match parameters with
    | [⟨0x30, _⟩] => .ok algorithm
    | _ => .error .malformed
  if identifier = rsaIdentifier then
    if parameters = [] ∨ parameters = [⟨Der.nullTag, []⟩] then .ok .rsa else .error .malformed
  else if identifier = rsaPssIdentifier then
    if parameters = [] then .ok .rsa else sequenced .rsa
  else if identifier = [0x2A, 0x86, 0x48, 0xCE, 0x3D, 0x02, 0x01] then
    (curveSize parameters).map .ec
  else if identifier = [0x2A, 0x86, 0x48, 0xCE, 0x38, 0x04, 0x01] then sequenced .dsa
  else if identifier = [0x2A, 0x86, 0x48, 0x86, 0xF7, 0x0D, 0x01, 0x03, 0x01] then sequenced .dh
  else if identifier = [0x2A, 0x86, 0x48, 0xCE, 0x3E, 0x02, 0x01] then sequenced .dh
  else if identifier = [0x2B, 0x65, 0x6E] then bare (.raw .x25519 32)
  else if identifier = [0x2B, 0x65, 0x6F] then bare (.raw .x448 56)
  else if identifier = [0x2B, 0x65, 0x70] then bare .ed25519
  else if identifier = [0x2B, 0x65, 0x71] then bare (.raw .ed448 57)
  else .error (if Der.isIdentifier identifier ∧ parameters.length ≤ 1 then .unsupported
    else .malformed)

/-- The algorithm that an identifying sequence names. -/
def algorithm (content : Bytes) : Except PemFault Algorithm :=
  match Der.elements? content with
  | some (⟨0x06, identifier⟩ :: parameters) => algorithmOf identifier parameters
  | _ => .error .malformed

/-- The most bits that a number of an RSA key may have. -/
def maxNumberBits : Nat := 536870848

/-- A number of an RSA key, which must not be too large to be kept. -/
def number? (e : Der.Element) : Option Nat := do
  let n ← Der.natural? e
  if n.log2 < maxNumberBits then return n else none

/-- The public half in two numbers. -/
def rsaPublic? (bytes : Bytes) : Option Rsa.PublicKey := do
  match ← Der.sequence? bytes with
  | [n, e] => return ⟨← number? n, ← number? e⟩
  | _ => none

/-- The private half in nine numbers, of which the first is the version. -/
def rsaPrivate? (bytes : Bytes) : Option Rsa.PrivateKey := do
  match ← (← Der.sequence? bytes).mapM number? with
  | [0, n, e, d, p, q, d₁, d₂, c] =>
    let key : Rsa.PrivateKey := ⟨⟨n, e⟩, d, p, q, d₁, d₂, c⟩
    if key.IsConsistent then return key else none
  | _ => none

/-- A key, or the fault that there is none. -/
def orMalformed {α : Type} (found : Option α) : Except PemFault α :=
  match found with
  | some value => .ok value
  | none => .error .malformed

/-- The key whose public half is stored in some bytes. -/
def publicHalf (algorithm : Algorithm) (bytes : Bytes) : Except PemFault LoadedKey :=
  let sized (fits : Bool) (kind : ForeignKind) : Except PemFault LoadedKey :=
    if fits then .ok (.foreign kind .publicHalf) else .error .malformed
  match algorithm with
  | .rsa => orMalformed ((rsaPublic? bytes).map fun key => .publicHalf (.rsa key))
  | .ed25519 =>
    orMalformed ((Ed25519.PublicKey.ofBytes? bytes).map fun key => .publicHalf (.ed25519 key))
  | .raw kind size => sized (bytes.length == size) kind
  | .ec size =>
    match bytes with
    | 0x04 :: point => sized (point.length == 2 * size) .ec
    | 0x02 :: point => sized (point.length == size) .ec
    | 0x03 :: point => sized (point.length == size) .ec
    | _ => .error .malformed
  | .dsa => orMalformed ((integer? bytes).map fun _ => .foreign .dsa .publicHalf)
  | .dh => orMalformed ((integer? bytes).map fun _ => .foreign .dh .publicHalf)
where
  /-- The one number that some bytes are. -/
  integer? (bytes : Bytes) : Option Nat := do
    match ← Der.elements? bytes with
    | [e] => Der.natural? e
    | _ => none

/-- Whether some bytes are an elliptic-curve private key. -/
def isEcPrivate (bytes : Bytes) : Bool :=
  match Der.sequence? bytes with
  | some (⟨0x02, [1]⟩ :: ⟨0x04, _⟩ :: _) => true
  | _ => false

/-- The key whose private half is stored in some bytes. -/
def privateHalf (algorithm : Algorithm) (bytes : Bytes) : Except PemFault LoadedKey :=
  let wrapped? : Option Bytes :=
    match Der.elements? bytes with
    | some [⟨0x04, content⟩] => some content
    | _ => none
  let foreign (fits : Bool) (kind : ForeignKind) : Except PemFault LoadedKey :=
    if fits then .ok (.foreign kind .privateHalf) else .error .malformed
  match algorithm with
  | .rsa => orMalformed ((rsaPrivate? bytes).map fun key => .privateHalf (.rsa key))
  | .ed25519 =>
    orMalformed ((wrapped? >>= Ed25519.Seed.ofBytes?).map fun seed => .privateHalf (.ed25519 seed))
  | .raw kind size => foreign (wrapped?.any (·.length == size)) kind
  | .ec _ => foreign (isEcPrivate bytes) .ec
  | .dsa => foreign (publicHalf.integer? bytes).isSome .dsa
  | .dh => foreign (publicHalf.integer? bytes).isSome .dh

/-- The key in a SubjectPublicKeyInfo. -/
def publicKeyInfo (bytes : Bytes) : Except PemFault LoadedKey :=
  match Der.sequence? bytes with
  | some [⟨0x30, identifier⟩, stored] =>
    match Der.bitString? stored with
    | some key => do publicHalf (← algorithm identifier) key
    | none => .error .malformed
  | _ => .error .malformed

/-- The key in a PrivateKeyInfo; attributes at its end are passed over. -/
def privateKeyInfo (bytes : Bytes) : Except PemFault LoadedKey :=
  match Der.sequence? bytes with
  | some (⟨0x02, [0]⟩ :: ⟨0x30, identifier⟩ :: ⟨0x04, key⟩ :: attributes) => do
    if attributes.all (·.tag == 0xA0) then privateHalf (← algorithm identifier) key
    else throw .malformed
  | _ => .error .malformed

/-- The key in a SubjectPublicKeyInfo, or else in the two numbers of an RSA key. -/
def anyPublic (bytes : Bytes) : Except PemFault LoadedKey :=
  match publicKeyInfo bytes, rsaPublic? bytes with
  | .error _, some key => .ok (.publicHalf (.rsa key))
  | found, _ => found

/-- The RSA key in two numbers, or else in a SubjectPublicKeyInfo. -/
def rsaPublicInfo (bytes : Bytes) : Except PemFault LoadedKey :=
  match rsaPublic? bytes, publicKeyInfo bytes with
  | some key, _ => .ok (.publicHalf (.rsa key))
  | none, .ok (.publicHalf (.rsa key)) => .ok (.publicHalf (.rsa key))
  | none, _ => .error .malformed

/-- The elliptic-curve key in the form of its own, which names its curve. -/
def ecPrivateInfo (bytes : Bytes) : Except PemFault LoadedKey :=
  match Der.sequence? bytes with
  | some (⟨0x02, [1]⟩ :: ⟨0x04, _⟩ :: ⟨0xA0, parameters⟩ :: _) =>
    match Der.elements? parameters with
    | some curve => (curveSize curve).map fun _ => .foreign .ec .privateHalf
    | none => .error .malformed
  | _ => .error .malformed

/-- The DSA key in the form of its own, six numbers. -/
def dsaPrivateInfo (bytes : Bytes) : Except PemFault LoadedKey :=
  match (Der.sequence? bytes).bind (·.mapM Der.natural?) with
  | some [0, _, _, _, _, _] => .ok (.foreign .dsa .privateHalf)
  | _ => .error .malformed

/-- An encrypted key, which is recognised and not read. -/
def encryptedInfo (bytes : Bytes) : Except PemFault LoadedKey :=
  match Der.sequence? bytes with
  | some [⟨0x30, _⟩, ⟨0x04, _⟩] => .error .encrypted
  | _ => .error .malformed

/-- How the contents of a public block are read, by its label. -/
def publicReader? (label : Text) : Option (Bytes → Except PemFault LoadedKey) :=
  if label = Text.ofString "PUBLIC KEY" then some anyPublic
  else if label = Text.ofString "RSA PUBLIC KEY" then some rsaPublicInfo
  else none

/-- How the contents of a private block are read, by its label. -/
def privateReader? (label : Text) : Option (Bytes → Except PemFault LoadedKey) :=
  if label = Text.ofString "PRIVATE KEY" then some privateKeyInfo
  else if label = Text.ofString "ENCRYPTED PRIVATE KEY" then some encryptedInfo
  else if label = Text.ofString "RSA PRIVATE KEY" then
    some fun bytes => orMalformed ((rsaPrivate? bytes).map fun key => .privateHalf (.rsa key))
  else if label = Text.ofString "EC PRIVATE KEY" then some ecPrivateInfo
  else if label = Text.ofString "DSA PRIVATE KEY" then some dsaPrivateInfo
  else none

/-- Whether the headers of a block say that its data are encrypted: `none` if they say so without
naming the cipher. -/
def isEncrypted? (block : Pem.Block) : Option Bool :=
  if block.headers.lookup (Text.ofString "Proc-Type") = some (Text.ofString "4,ENCRYPTED") then
    (block.headers.lookup (Text.ofString "DEK-Info")).bind fun cipher =>
      if CodePoint.ofChar ',' ∈ cipher then some true else none
  else some false

end Container

namespace LoadedKey

/-- The public key in the first block of a document. Later blocks are not looked at. -/
def ofPublicPem (document : Bytes) : Except PemFault LoadedKey :=
  let found := (Pem.firstBlock? document).bind fun block =>
    (Container.publicReader? block.label).map fun reader => (reader, block)
  match found with
  | some (reader, block) => reader block.contents
  | none => .error .malformed

/-- The private key in the first block of a document that is labelled as one. All blocks must be
well formed. -/
def ofPrivatePem (document : Bytes) : Except PemFault LoadedKey :=
  let found := (Pem.blocks? document).bind (·.findSome? fun block =>
    (Container.privateReader? block.label).map fun reader => (reader, block))
  match found with
  | some (reader, block) =>
    match Container.isEncrypted? block with
    | some true => .error .encrypted
    | some false => reader block.contents
    | none => .error .malformed
  | none => .error .malformed

/-- The key of a document: a private one if the words `PRIVATE KEY` stand anywhere in it. -/
def ofPem (document : Bytes) : Except PemFault LoadedKey :=
  if Bytes.includes (Bytes.ofAscii "PRIVATE KEY") document then ofPrivatePem document
  else ofPublicPem document

end LoadedKey

/-- The two numbers of an RSA key as a sequence. -/
def Rsa.PublicKey.toDer (key : Rsa.PublicKey) : Bytes :=
  (Der.sequence [Der.natural key.modulus, Der.natural key.exponent]).encode

/-- The SubjectPublicKeyInfo of an RSA key. -/
def Rsa.PublicKey.toInfo (key : Rsa.PublicKey) : Bytes :=
  let identifier := Der.sequence [⟨Der.identifierTag, Container.rsaIdentifier⟩, ⟨Der.nullTag, []⟩]
  (Der.sequence [identifier, Der.bitString key.toDer]).encode

/-- The document of an RSA key, one block labelled as a public key. -/
def Rsa.PublicKey.toPem (key : Rsa.PublicKey) : Bytes :=
  Pem.Block.encode ⟨Text.ofString "PUBLIC KEY", [], key.toInfo⟩

end FleetToken
