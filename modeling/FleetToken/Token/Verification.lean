import FleetToken.Claims.Decoding
import FleetToken.Text.DecimalDigit
import FleetToken.Token.Compact

/-!
# Verification

A token is verified in a fixed order: its structure and header, the key, the algorithm and the
family of the key, the signature, the payload, the time claims, and last the claims that are
wanted. Nothing of the payload is looked at before the signature is right.

## Main definitions

- `SigningMethod`: the algorithms that are accepted.
- `verifiedPayload`: the payload of a token under a key at a time.
- `parseToken`, `parseAnyToken`: the claims of a token.
-/

namespace FleetToken

/-- The algorithms that tokens may be signed with. -/
inductive SigningMethod where
  | edDSA
  | rs256
  | rs384
  | rs512
deriving DecidableEq

namespace SigningMethod

def name : SigningMethod → String
  | .edDSA => "EdDSA"
  | .rs256 => "RS256"
  | .rs384 => "RS384"
  | .rs512 => "RS512"

def ofName? (name : Text) : Option SigningMethod :=
  [SigningMethod.edDSA, .rs256, .rs384, .rs512].find? fun method =>
    Text.ofString method.name == name

/-- The family of keys that an algorithm works with. -/
def family : SigningMethod → KeyFamily
  | .edDSA => .ed25519
  | _ => .rsa

/-- The digest that an RSA algorithm signs. -/
def hash : SigningMethod → Rsa.Hash
  | .rs384 => .sha384
  | .rs512 => .sha512
  | _ => .sha256

end SigningMethod

/-- The text of a value that stands where the name of an algorithm should; a list or an object is
no name. -/
def algorithmText? : Json → Option Text
  | .null => some "None"
  | .bool true => some "True"
  | .bool false => some "False"
  | .int n => some (Text.ofInt n)
  | .float x => some x.toText
  | .string t => some t
  | .array _ => none
  | .object _ => none

/-- The algorithm that a header names; a header without a name names the empty one. -/
def signingMethod (header : Members) : Except Failure SigningMethod :=
  let value := (CompactToken.entry? header "alg").getD (.string [])
  match algorithmText? value with
  | none => .error .unnamedAlgorithm
  | some name =>
    -- A value that is no text is only printed in the refusal.
    match value.string?.bind SigningMethod.ofName? with
    | some method => .ok method
    | none => .error (.token (.unsupportedKeyType (.signingMethod name)))

/-- The public half of a pair whose label is the family of an algorithm. -/
def verificationKey (pair : KeyPair) (method : SigningMethod) : Except TokenError PublicKey :=
  if pair.family = method.family then .ok pair.publicKey
  else .error (.keyTypeMismatch method.family)

/-- Whether a signature is right. The key must be of the kind that the algorithm works with,
whatever its label said. -/
def PublicKey.verify (key : PublicKey) (method : SigningMethod) (input signature : Bytes) :
    Except Failure Bool :=
  match method.family, key with
  | .ed25519, .ed25519 key => .ok (Ed25519.verify key input signature)
  | .ed25519, .rsa _ => .error (.token (.invalidToken .unusableKey))
  | .rsa, .ed25519 _ => .error .wrongKeyKind
  | .rsa, .rsa key => .ok (Rsa.verify key method.hash input signature)

/-- The members that the bytes of a payload write. -/
def payloadMembers (bytes : Bytes) (room : Room) : Except Failure Members :=
  Json.readObject bytes room .payloadUnreadable .payloadNotObject

/-- The integer that a time claim states: a number without its fraction, a truth value as zero or
one, or the text of an integer. -/
def timeInt? : Json → Option Int
  | .int n => some n
  | .bool b => some (if b then 1 else 0)
  | .float x => x.truncate?
  | .string t => Text.readInt? t
  | _ => none

/-- The integer of a time claim, if it is present. -/
def timeClaim (payload : Members) (claim : TimeClaim) : Except TokenError (Option Int) :=
  match payload.get? (Text.ofString claim.wire) with
  | none => .ok none
  | some value =>
    match timeInt? value with
    | some n => .ok (some n)
    | none => .error (.invalidToken (.notInteger claim))

/-- Whether an integer is greater than the seconds that a clock shows. -/
def Clock.isBefore (clock : Clock) (n : Int) : Bool :=
  match clock.seconds.ratio? with
  | some (num, den) => num < n * den
  | none => false

/-- Refuses a time claim that lies in the future. -/
def checkReached (payload : Members) (clock : Clock) (claim : TimeClaim) :
    Except TokenError Unit := do
  match ← timeClaim payload claim with
  | some n => if clock.isBefore n then throw (.invalidToken (.notYetValid claim))
  | none => return ()

/-- Refuses an end that has been reached. -/
def checkUnexpired (payload : Members) (clock : Clock) : Except TokenError Unit := do
  match ← timeClaim payload .expiresAt with
  | some n => if !clock.isBefore n then throw .tokenExpired
  | none => return ()

/-- Refuses a claim that is present and no text. -/
def checkText (payload : Members) (name : String) (fault : InvalidTokenFault) :
    Except TokenError Unit :=
  match payload.get? (Text.ofString name) with
  | none | some (.string _) => .ok ()
  | some _ => .error (.invalidToken fault)

/-- Checks the claims that every token may have: its three times, its subject and its
identifier. -/
def checkPayload (payload : Members) (clock : Clock) : Except TokenError Unit := do
  checkReached payload clock .issuedAt
  checkReached payload clock .notBefore
  checkUnexpired payload clock
  checkText payload "sub" .subjectNotText
  checkText payload "jti" .tokenIdNotText

/-- The payload of a token whose signature is right under a public key. -/
def CompactToken.authenticate (token : CompactToken) (key : PublicKey) (method : SigningMethod)
    (room : Room := .unlimited) : Except Failure Members := do
  -- A detached payload is never at hand here, so both cases end before the key is used.
  if isDetached token.header then
    if listsCritical token.header "b64" then throw (.token (.invalidToken .detachedPayload))
    else throw (.token (.invalidToken .detachmentNotCritical))
  if ← key.verify method token.signingInput token.signature then
    payloadMembers token.payload room
  else throw (.token (.signatureInvalid (Text.ofString method.name)))

/-- The payload of a token that is right under a key at the time that a clock shows. -/
def verifiedPayload (token : TokenInput) (key : KeyArgument) (clock : Clock)
    (stack : Stack := {}) : Except Failure Members :=
  match key with
  | .absent => .error (.token .missingKey)
  | key => do
    let parts ← CompactToken.ofInput token stack.header
    let pair ← (KeyPair.ofArgument key).mapError .token
    let method ← signingMethod parts.header
    let publicKey ← (verificationKey pair method).mapError .token
    -- The token is read once more, deeper in the stack than at first.
    let parts ← CompactToken.ofInput token stack.headerAgain
    let payload ← parts.authenticate publicKey method stack.payload
    -- Nothing before this depends on the clock.
    (checkPayload payload clock).mapError .token
    return payload

/-- The claims of a wanted kind in a token that is right. -/
def parseToken (token : TokenInput) (key : KeyArgument) (clock : Clock) (kind : ClaimsType)
    (stack : Stack := {}) : Except Failure Claims := do
  let payload ← verifiedPayload token key clock stack
  Claims.decodeAs kind (.object payload) stack.purpose

/-- The claims in a token that is right, of the kind that belongs to its purpose. -/
def parseAnyToken (token : TokenInput) (key : KeyArgument) (clock : Clock)
    (stack : Stack := {}) : Except Failure Claims := do
  let payload ← verifiedPayload token key clock stack
  Claims.decode (.object payload) stack.purpose

end FleetToken
