import FleetToken.Claims.Validation
import FleetToken.Claims.Wire
import FleetToken.Key.Loading
import FleetToken.Time.Duration

/-!
# Decoding claims

A payload is decoded into claims of a wanted kind, which refuses other purposes, or in two phases:
the envelope tells the purpose, and the purpose the kind.

## Main definitions

- `Claims.decodeAs`, `Claims.decode`.
- `Claims.hasRoom`: whether the stack has room for the purpose that a payload states.
- `Claims.isExpired?`, `Claims.publicKey?`, `ProvisioningClaims.urlList`: what consumers ask.
-/

namespace FleetToken

namespace Claims

/-- Whether there is room on the stack to look up the purpose that a payload states. -/
def hasRoom (payload : Json) (room : Room) : Bool :=
  match payload with
  | .object members =>
    let stated := Members.get? members (Text.ofString "purpose")
    stated.all fun value => (Purpose.lookup? value room).isSome
  | _ => true

/-- The claims of a kind that a payload carries. They must state the purpose of the kind; the
envelope alone may state any. -/
def decodeAs (kind : ClaimsType) (payload : Json) (room : Room := .unlimited) :
    Except Failure Claims :=
  -- Without room for the purpose nothing else that is wrong is reported.
  if !hasRoom payload room then .error .stackExhausted
  else
    match validate kind payload with
    | .issues found => .error (.token (.invalidClaims (.payload kind found)))
    | .ok claims =>
      if kind.purpose ≠ .unknown ∧ claims.envelope.purpose ≠ kind.purpose then
        .error (.token (.invalidClaims (.wrongPurpose kind.purpose)))
      else .ok claims

/-- The claims that a payload carries, of the kind that belongs to the purpose it states. -/
def decode (payload : Json) (room : Room := .unlimited) : Except Failure Claims := do
  let envelope ← decodeAs .standard payload room
  -- The envelope fits any purpose, and that of the payload picks the kind.
  match envelope.envelope.purpose.claimsType? with
  | some kind => decodeAs kind payload room
  | none => throw (.token (.invalidClaims .unknownPurpose))

/-- Whether the claims have expired at the time that a clock shows. Claims without an end never
expire; a naive end cannot be compared. -/
def isExpired? (c : Claims) (clock : Clock) : Option Bool :=
  match c.envelope.expiresAt with
  | none => some false
  | some expiresAt => expiresAt.le? clock.instant

/-- The text of the public key that the claims embed, if claims of their kind do. -/
def publicKeyText? : Claims → Option Text
  | .client c => some c.publicKey
  | .server c => some c.publicKey
  | _ => none

/-- The public key that the claims embed, if claims of their kind do. -/
def publicKey? (c : Claims) : Option (Except Failure PublicKey) :=
  c.publicKeyText?.map PublicKey.decode

end Claims

/-- The broker URLs: the trimmed pieces between commas, without the empty ones. -/
def ProvisioningClaims.urlList (c : ProvisioningClaims) : List Text :=
  ((Text.split (CodePoint.ofChar ',') (c.urls.getD [])).map Text.trim).filter (· ≠ [])

end FleetToken
