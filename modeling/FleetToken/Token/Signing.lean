import FleetToken.Claims.Decoding
import FleetToken.Token.Compact

/-!
# Signing

Claims are signed with the private half of a key. The label of the key's family chooses the
algorithm. Claims that expire no later than they are issued are refused.

## Main definitions

- `Claims.sign`: the token of claims under a key.
-/

namespace FleetToken

/-- The header of a token signed with an algorithm. -/
def signingHeader (algorithm : String) : Json :=
  .object [(Text.ofString "alg", .string (Text.ofString algorithm)),
    (Text.ofString "typ", .string (Text.ofString "JWT"))]

/-- The signature of some bytes under the algorithm of a family. The half must be of that family,
and a modulus large enough for the digest. -/
def PrivateKey.sign (key : PrivateKey) (family : KeyFamily) (input : Bytes) : Except Cause Bytes :=
  match family, key with
  | .ed25519, .ed25519 seed => .ok (Ed25519.sign seed input)
  | .ed25519, .rsa _ => .error .unusableKey
  | .rsa, .ed25519 _ => .error .wrongType
  | .rsa, .rsa key =>
    match Rsa.sign? key .sha256 input with
    | some signature => .ok signature
    | none => .error .badValue

namespace StandardClaims

/-- Checks that claims with a time of issue and an end expire after they are issued. -/
def checkLifetime (c : StandardClaims) : Except Failure Unit :=
  match c.expiresAt, c.issuedAt with
  | some expiresAt, some issuedAt =>
    match expiresAt.le? issuedAt with
    | none => .error .incomparableDates
    | some true => .error (.token (.invalidClaims .emptyLifetime))
    | some false => .ok ()
  | _, _ => .ok ()

end StandardClaims

/-- The cause that a fault of the wire form is. -/
def WireFault.cause : WireFault → Cause
  | .dateUncountable => .unserializable
  | .keyUnencodable => .unencodableText
  | .tooDeep => .badValue

/-- The token with a payload, signed with a private half under a family's algorithm. The payload
is written before the key is looked at. -/
def PrivateKey.token (key : PrivateKey) (family : KeyFamily) (payload : Members) :
    Except Cause Text := do
  if !(Json.object payload).isWritable then throw .badValue
  let input := signingInput (signingHeader family.algorithm) (.object payload)
  return compactText input (← key.sign family input)

/-- The token of claims, signed with the private half of a key. Naive dates are readings of a local
clock. -/
def Claims.sign (c : Claims) (key : KeyArgument) (zone : LocalZone := .utc) :
    Except Failure Text := do
  let pair ← (KeyPair.ofArgument key).mapError .token
  match pair.privateKey with
  | none => throw (.token (.signingFailure .privateKeyRequired))
  | some privateKey =>
    c.envelope.checkLifetime
    -- The claims are written first, so a fault in them hides one of the key.
    let signed := do privateKey.token pair.family (← (c.payload zone).mapError WireFault.cause)
    signed.mapError fun cause => .token (.signingFailure (.couldNotSign cause))

end FleetToken
