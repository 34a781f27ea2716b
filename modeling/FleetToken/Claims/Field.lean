import FleetToken.Claims.Types
import FleetToken.Text.Utf8

/-!
# Fields of claims

Each field of claims has a name and a wire name, the one that it goes by in a token. The fields of
a kind have a fixed order: the envelope first, then those of the kind.

## Main definitions

- `FieldName`: a name with its wire name, and one constant for each field.
- `FieldValue`: the value of a field that is present.
- `Claims.fields`: the fields of claims with their values, in order.
-/

namespace FleetToken

/-- The two names of a field. -/
structure FieldName where
  /-- The name that says what the field means. -/
  name : String
  /-- The name in a token. -/
  wire : String
deriving DecidableEq

namespace FieldName

/-- A field that goes by its name in tokens too. -/
def same (name : String) : FieldName := ⟨name, name⟩

-- The envelope.

def purpose : FieldName := same "purpose"
def issuer : FieldName := ⟨"issuer", "iss"⟩
def subject : FieldName := ⟨"subject", "sub"⟩
def issuedAt : FieldName := ⟨"issued_at", "iat"⟩
def notBefore : FieldName := ⟨"not_before", "nbf"⟩
def expiresAt : FieldName := ⟨"expires_at", "exp"⟩
def tokenId : FieldName := ⟨"token_id", "jti"⟩
def trustChainSignature : FieldName := ⟨"trust_chain_signature", "tcs"⟩

-- What provisioning claims add; all kinds with fields of their own have an organization.

def secure : FieldName := ⟨"secure", "chs"⟩
def urls : FieldName := ⟨"urls", "chu"⟩
def token : FieldName := ⟨"token", "cht"⟩
def srvDomain : FieldName := ⟨"srv_domain", "chsrv"⟩
def provisionByDefault : FieldName := ⟨"provision_by_default", "chpd"⟩
def registrationData : FieldName := ⟨"registration_data", "chrd"⟩
def factsData : FieldName := ⟨"facts_data", "chf"⟩
def brokerUser : FieldName := ⟨"broker_user", "pnu"⟩
def brokerPassword : FieldName := ⟨"broker_password", "pnp"⟩
def organization : FieldName := ⟨"organization", "ou"⟩
def protocolV2 : FieldName := ⟨"protocol_v2", "v2"⟩
def allowUpdate : FieldName := ⟨"allow_update", "upd"⟩
def extensions : FieldName := same "extensions"

-- What client and server claims add.

def publicKey : FieldName := same "public_key"
def callerId : FieldName := ⟨"caller_id", "callerid"⟩
def allowedAgents : FieldName := ⟨"allowed_agents", "agents"⟩
def opaPolicy : FieldName := same "opa_policy"
def permissions : FieldName := same "permissions"
def userProperties : FieldName := same "user_properties"
def additionalPublishSubjects : FieldName := ⟨"additional_publish_subjects", "pub_subjects"⟩
def identity : FieldName := same "identity"
def collectives : FieldName := same "collectives"

end FieldName

/-- The value of a field that is present. -/
inductive FieldValue where
  | purpose (p : Purpose)
  | text (t : Text)
  | flag (b : Bool)
  | date (t : Timestamp)
  | texts (ts : List Text)
  | properties (entries : List (Text × Text))
  | flags (named : List (String × Bool))
  | members (members : Members)

/-- A field with its value; an absent field has none. -/
structure Field where
  name : FieldName
  value : Option FieldValue

/-- The flags of a client, in order. -/
def ClientPermissions.flags (p : ClientPermissions) : List (String × Bool) :=
  [("streams_admin", p.streamsAdmin), ("streams_user", p.streamsUser),
    ("events_viewer", p.eventsViewer), ("election_user", p.electionUser),
    ("system_user", p.systemUser), ("fleet_management", p.fleetManagement),
    ("signed_fleet_management", p.signedFleetManagement),
    ("extended_service_lifetime", p.extendedServiceLifetime),
    ("authentication_delegator", p.authenticationDelegator), ("org_admin", p.orgAdmin)]

/-- The flags of a server, in order. -/
def ServerPermissions.flags (p : ServerPermissions) : List (String × Bool) :=
  [("submission", p.submission), ("streams", p.streams), ("service_host", p.serviceHost)]

/-- The fields of the envelope. -/
def StandardClaims.fields (c : StandardClaims) : List Field :=
  [⟨.purpose, some (.purpose c.purpose)⟩, ⟨.issuer, some (.text c.issuer)⟩,
    ⟨.subject, c.subject.map .text⟩, ⟨.issuedAt, c.issuedAt.map .date⟩,
    ⟨.notBefore, c.notBefore.map .date⟩, ⟨.expiresAt, c.expiresAt.map .date⟩,
    ⟨.tokenId, c.tokenId.map .text⟩, ⟨.trustChainSignature, c.trustChainSignature.map .text⟩]

/-- The fields that provisioning claims add. -/
def ProvisioningClaims.ownFields (c : ProvisioningClaims) : List Field :=
  [⟨.secure, some (.flag c.secure)⟩, ⟨.urls, c.urls.map .text⟩, ⟨.token, some (.text c.token)⟩,
    ⟨.srvDomain, c.srvDomain.map .text⟩, ⟨.provisionByDefault, some (.flag c.provisionByDefault)⟩,
    ⟨.registrationData, c.registrationData.map .text⟩, ⟨.factsData, c.factsData.map .text⟩,
    ⟨.brokerUser, c.brokerUser.map .text⟩, ⟨.brokerPassword, c.brokerPassword.map .text⟩,
    ⟨.organization, c.organization.map .text⟩, ⟨.protocolV2, c.protocolV2.map .flag⟩,
    ⟨.allowUpdate, c.allowUpdate.map .flag⟩, ⟨.extensions, c.extensions.map .members⟩]

/-- The fields that client claims add. -/
def ClientClaims.ownFields (c : ClientClaims) : List Field :=
  [⟨.publicKey, some (.text c.publicKey)⟩, ⟨.callerId, some (.text c.callerId)⟩,
    ⟨.allowedAgents, c.allowedAgents.map .texts⟩, ⟨.opaPolicy, c.opaPolicy.map .text⟩,
    ⟨.permissions, c.permissions.map (.flags ·.flags)⟩,
    ⟨.userProperties, c.userProperties.map .properties⟩,
    ⟨.additionalPublishSubjects, c.additionalPublishSubjects.map .texts⟩,
    ⟨.organization, c.organization.map .text⟩]

/-- The fields that server claims add. -/
def ServerClaims.ownFields (c : ServerClaims) : List Field :=
  [⟨.publicKey, some (.text c.publicKey)⟩, ⟨.identity, some (.text c.identity)⟩,
    ⟨.collectives, some (.texts c.collectives)⟩, ⟨.permissions, c.permissions.map (.flags ·.flags)⟩,
    ⟨.additionalPublishSubjects, c.additionalPublishSubjects.map .texts⟩,
    ⟨.organization, c.organization.map .text⟩]

/-- The fields of claims, in order. -/
def Claims.fields : Claims → List Field
  | .standard c => c.fields
  | .provisioning c => c.toStandardClaims.fields ++ c.ownFields
  | .client c => c.toStandardClaims.fields ++ c.ownFields
  | .server c => c.toStandardClaims.fields ++ c.ownFields

end FleetToken
