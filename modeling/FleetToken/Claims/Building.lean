import FleetToken.Claims.Decoding
import FleetToken.Settings

/-!
# Building claims

New claims are issued now and valid for a positive time. Texts that may be left out are left out
when they are empty, and so are lists.

## Main definitions

- `Surroundings`: the clock, a fresh identifier, and the environment.
- `StandardClaims.build`, `ProvisioningClaims.build`, `ClientClaims.build`, `ServerClaims.build`.
-/

namespace FleetToken

/-- What new claims take from their surroundings. -/
structure Surroundings where
  /-- The clock. -/
  clock : Clock
  /-- An identifier that no other token has. -/
  freshId : Text
  /-- The variables that settings are read from. -/
  environment : Environment

/-- The settings in force. -/
def Surroundings.settings (s : Surroundings) : Except Failure Settings :=
  (Settings.ofEnvironment s.environment).toExcept.mapError (.invalid .settings)

/-- A text unless it is empty. -/
def Text.nonEmpty? (t : Text) : Option Text :=
  if t = [] then none else some t

/-- A list unless it is empty. -/
def listNonEmpty? {α : Type} (items : List α) : Option (List α) :=
  if items.isEmpty then none else some items

/-- The span that new claims are valid: the wished one, which must be positive, or the one in the
settings. -/
def Settings.validity (settings : Settings) (wished : Option Duration) : Except Failure Duration :=
  match wished with
  | some d =>
    if d.micros ≤ 0 then .error (.token (.invalidClaims .validityNotPositive)) else .ok d
  | none =>
    match Duration.ofSeconds? settings.defaultValidity with
    | some d => .ok d
    | none => .error .outOfRange

/-- Whether a code point may stand in the name of an organization: ASCII letters and digits, low
lines and hyphens. -/
def isOrganizationCodePoint (c : CodePoint) : Bool :=
  (0x41 ≤ c.val && c.val ≤ 0x5A) || (0x61 ≤ c.val && c.val ≤ 0x7A) || c.isAsciiDigit
    || c == CodePoint.ofChar '_' || c == CodePoint.ofChar '-'

/-- Whether a text is the name of an organization; a single line feed may end it. -/
def isOrganization (t : Text) : Bool :=
  let name := if t.getLast? = some (CodePoint.ofChar '\n') then t.dropLast else t
  name != [] && name.all isOrganizationCodePoint

/-- The name of an organization, which must be one. -/
def checkOrganization (t : Text) : Except Failure Text :=
  if t = [] then .error (.token (.invalidClaims .organizationRequired))
  else if isOrganization t then .ok t
  else .error (.token (.invalidClaims (.organizationInvalid t)))

/-- The text of a public key to be embedded, which must be a bare key. -/
def embeddedPublicKey (key : KeyArgument) : Except Failure Text :=
  match key with
  | .absent => .error (.token (.invalidClaims .publicKeyRequired))
  | key =>
    match key.encodePublic with
    | .ok t => .ok t
    | .error _ => .error (.token (.invalidClaims (.publicKeyUnsupported key.typeName)))

/-- The envelope of claims issued now. Its subject is the purpose if so wished. -/
def StandardClaims.build (s : Surroundings) (issuer : Text) (purpose : Purpose)
    (validity : Option Duration) (subjectIsPurpose : Bool) : Except Failure StandardClaims := do
  let settings ← s.settings
  if purpose = .unknown then throw (.token (.invalidClaims .purposeRequired))
  -- Tokens count whole seconds.
  let now := s.clock.wholeSecond
  let span ← settings.validity validity
  match now.add? span with
  | none => throw .outOfRange
  | some expiresAt =>
    return {
      purpose
      issuer := issuer.nonEmpty?.getD settings.defaultIssuer
      subject := if subjectIsPurpose then some purpose.text else none
      issuedAt := some now
      notBefore := some now
      expiresAt := some expiresAt
      tokenId := some s.freshId }

/-- What is asked for in a provisioning token. -/
structure ProvisioningRequest where
  secure : Bool
  /-- Whether servers without configuration are provisioned. -/
  byDefault : Bool
  /-- The word that authorizes provisioning. -/
  token : Text
  user : Text
  password : Text
  urls : List Text
  srvDomain : Text
  registrationDataFile : Text
  factsDataFile : Text
  organization : Text
  issuer : Text
  /-- How long the token is valid. -/
  validity : Option Duration

/-- Claims for provisioning. They say where to provision. -/
def ProvisioningClaims.build (s : Surroundings) (r : ProvisioningRequest) :
    Except Failure ProvisioningClaims := do
  if r.urls = [] ∧ r.srvDomain = [] then throw (.token (.invalidClaims .brokerRequired))
  let envelope ← StandardClaims.build s r.issuer .provisioning r.validity true
  let organization ← checkOrganization r.organization
  return {
    toStandardClaims := envelope
    secure := r.secure
    provisionByDefault := r.byDefault
    token := r.token
    brokerUser := r.user.nonEmpty?
    brokerPassword := r.password.nonEmpty?
    urls := (listNonEmpty? r.urls).map (Text.join (CodePoint.ofChar ','))
    srvDomain := r.srvDomain.nonEmpty?
    registrationData := r.registrationDataFile.nonEmpty?
    factsData := r.factsDataFile.nonEmpty?
    organization := some organization }

/-- What is asked for in a client token. -/
structure ClientRequest where
  callerId : Text
  allowedAgents : List Text
  organization : Text
  properties : List (Text × Text)
  opaPolicy : Text
  issuer : Text
  /-- How long the token is valid. -/
  validity : Option Duration
  permissions : Option ClientPermissions
  publicKey : KeyArgument

/-- Claims of a client. -/
def ClientClaims.build (s : Surroundings) (r : ClientRequest) : Except Failure ClientClaims := do
  if r.callerId = [] then throw (.token (.invalidClaims .callerRequired))
  let publicKey ← embeddedPublicKey r.publicKey
  let envelope ← StandardClaims.build s r.issuer .client r.validity false
  let organization ← checkOrganization r.organization
  return {
    toStandardClaims := { envelope with subject := some r.callerId }
    callerId := r.callerId
    allowedAgents := listNonEmpty? r.allowedAgents
    organization := some organization
    userProperties := listNonEmpty? r.properties
    opaPolicy := r.opaPolicy.nonEmpty?
    permissions := r.permissions
    publicKey }

/-- What is asked for in a server token. -/
structure ServerRequest where
  identity : Text
  collectives : List Text
  organization : Text
  permissions : Option ServerPermissions
  /-- Subjects that the server may publish to besides the usual ones. -/
  additionalPublish : List Text
  publicKey : KeyArgument
  issuer : Text
  /-- How long the token is valid. -/
  validity : Option Duration

/-- Claims of a server. It belongs to at least one collective, and all of them have names. -/
def ServerClaims.build (s : Surroundings) (r : ServerRequest) : Except Failure ServerClaims := do
  if r.identity = [] then throw (.token (.invalidClaims .identityRequired))
  if r.collectives = [] ∨ [] ∈ r.collectives then
    throw (.token (.invalidClaims .collectiveRequired))
  let publicKey ← embeddedPublicKey r.publicKey
  let envelope ← StandardClaims.build s r.issuer .server r.validity false
  let organization ← checkOrganization r.organization
  return {
    toStandardClaims := { envelope with subject := some r.identity }
    identity := r.identity
    collectives := r.collectives
    organization := some organization
    permissions := r.permissions
    additionalPublishSubjects := listNonEmpty? r.additionalPublish
    publicKey }

end FleetToken
