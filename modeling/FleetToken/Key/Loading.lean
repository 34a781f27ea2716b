import FleetToken.Key.Container
import FleetToken.Key.Seed

/-!
# Loading keys

Keys come as key objects, as PEM documents, or as the contents of files that hold either a seed or
a PEM document. Public keys are embedded in claims as text: Ed25519 keys as hexadecimal digits, RSA
keys as PEM documents.

## Main definitions

- `KeyPair.ofLoaded`: the pair of a key of any kind.
- `KeyPair.ofPem`, `KeyPair.ofFile`: the pair of a document, and of the contents of a file.
- `PublicKey.encode`, `PublicKey.decode`: the text of a public key, and back.
-/

namespace FleetToken

/-- The pair of a key, labelled with its own family. -/
def KeyPair.ofLoaded : LoadedKey → Except TokenError KeyPair
  | .publicHalf key => .ok (.ofPublic key)
  | .privateHalf key => .ok (.ofPrivate key)
  | .foreign kind half =>
    .error (.unsupportedKeyType (.keyType (LoadedKey.foreign kind half).typeName))

/-- The pair of what is handed in as a key. A pair is taken as it is. -/
def KeyPair.ofArgument : KeyArgument → Except TokenError KeyPair
  | .pair pair => .ok pair
  | .bare key => ofLoaded key
  | .absent => .error (.unsupportedKeyType (.keyType KeyArgument.absent.typeName))
  | .other typeName => .error (.unsupportedKeyType (.keyType typeName))

/-- The bytes of key material; a lone surrogate has none. -/
def KeyMaterial.bytes? : KeyMaterial → Option Bytes
  | .text t => t.encodeUtf8?
  | .bytes b => some b

/-- The failure that a fault of a PEM document is. -/
def PemFault.failure : PemFault → Failure
  | .malformed => .token (.invalidKeyMaterial (.pemUnreadable .badValue))
  | .encrypted => .token (.invalidKeyMaterial (.pemUnreadable .wrongType))
  | .unsupported => .unsupportedAlgorithm

/-- The RSA pair of a PEM document; keys of other kinds are refused. -/
def KeyPair.ofPemBytes (document : Bytes) : Except Failure KeyPair :=
  if Bytes.includes Pem.marker document then
    match LoadedKey.ofPem document with
    | .ok (.publicHalf (.rsa key)) => .ok (.ofPublic (.rsa key))
    | .ok (.privateHalf (.rsa key)) => .ok (.ofPrivate (.rsa key))
    | .ok key => .error (.token (.unsupportedKeyType (.pemKeyType key.typeName)))
    | .error fault => .error fault.failure
  else .error (.token (.invalidKeyMaterial .noPem))

/-- The RSA pair of a PEM document as text or bytes. -/
def KeyPair.ofPem (m : KeyMaterial) : Except Failure KeyPair :=
  match m.bytes? with
  | some document => ofPemBytes document
  | none => .error .unencodableText

/-- The bytes without ASCII white space at their two ends. -/
def trimAsciiSpace (bytes : Bytes) : Bytes :=
  let isSpace (b : UInt8) : Bool := (0x09 ≤ b && b ≤ 0x0D) || b == 0x20
  ((bytes.dropWhile isSpace).reverse.dropWhile isSpace).reverse

/-- The pair of the contents of a key file: a seed if they are one, else a PEM document. -/
def KeyPair.ofFile (contents : Bytes) : Except Failure KeyPair :=
  -- What looks like a seed is never tried as a document.
  if (KeyMaterial.bytes (trimAsciiSpace contents)).isEncodedKey then
    match (KeyMaterial.bytes contents).seed with
    | .ok seed => .ok (.ofPrivate (.ed25519 seed))
    | .error error => .error (.token error)
  else ofPemBytes contents

/-- The text of a public key inside claims. -/
def PublicKey.encode : PublicKey → Text
  | .ed25519 key => Hex.encode key.bytes
  | .rsa key => key.toPem.map fun b => .ofNat b.toNat

/-- The text of the public half of what is handed in as a key, which must be a bare key. -/
def KeyArgument.encodePublic : KeyArgument → Except TokenError Text
  | .bare key => (KeyPair.ofLoaded key).map (·.publicKey.encode)
  | argument => .error (.unsupportedKeyType (.keyType argument.typeName))

/-- The public key that a text inside claims writes. -/
def PublicKey.decode (encoded : Text) : Except Failure PublicKey :=
  if KeyMaterial.isEncodedKeyText encoded then
    match ((Hex.decode encoded).toOption).bind Ed25519.PublicKey.ofBytes? with
    | some key => .ok (.ed25519 key)
    | none => .error (.token .invalidSeedLength)
  else (KeyPair.ofPem (.text encoded)).map (·.publicKey)

end FleetToken
