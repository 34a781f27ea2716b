import FleetToken.Claims.Purpose
import FleetToken.Time.Timestamp

/-!
# Claims

What a token says. All tokens carry an envelope; the three kinds of tokens add fields of their
own. A value of any kind may state any purpose: the kind says which fields there are, the purpose
what the token authorizes.

## Main definitions

- `StandardClaims`, `ProvisioningClaims`, `ClientClaims`, `ServerClaims`.
- `ClaimsType`: the four kinds; `Claims`: claims of any kind.
- `Claims.envelope`: the part that all kinds share.
-/

namespace FleetToken

/-- The envelope that all tokens carry. -/
structure StandardClaims where
  /-- The role that the token authorizes. -/
  purpose : Purpose := .unknown
  /-- Who issued the token. -/
  issuer : Text := []
  /-- Whom the token is about. -/
  subject : Option Text := none
  /-- When the token was issued. -/
  issuedAt : Option Timestamp := none
  /-- When the token becomes valid. -/
  notBefore : Option Timestamp := none
  /-- When the token stops being valid. -/
  expiresAt : Option Timestamp := none
  /-- A text that no other token has. -/
  tokenId : Option Text := none
  /-- A signature by the issuer of the issuer. -/
  trustChainSignature : Option Text := none
deriving DecidableEq

/-- What a server needs to be provisioned. -/
structure ProvisioningClaims extends StandardClaims where
  /-- Whether the broker connection is secured. -/
  secure : Bool := false
  /-- The broker URLs, with commas between them. -/
  urls : Option Text := none
  /-- The word that authorizes provisioning. -/
  token : Text := []
  /-- The domain whose service records name the brokers. -/
  srvDomain : Option Text := none
  /-- Whether servers without configuration are provisioned. -/
  provisionByDefault : Bool := false
  /-- The file with registration data. -/
  registrationData : Option Text := none
  /-- The file with facts. -/
  factsData : Option Text := none
  /-- The user name at the broker. -/
  brokerUser : Option Text := none
  /-- The password at the broker. -/
  brokerPassword : Option Text := none
  /-- The organization of the server. -/
  organization : Option Text := none
  /-- Whether the second protocol version is spoken. -/
  protocolV2 : Option Bool := none
  /-- Whether the server may be updated. -/
  allowUpdate : Option Bool := none
  /-- Values for extensions of the provisioner. -/
  extensions : Option Members := none

/-- Special capabilities of a client. -/
structure ClientPermissions where
  streamsAdmin : Bool := false
  streamsUser : Bool := false
  eventsViewer : Bool := false
  electionUser : Bool := false
  systemUser : Bool := false
  fleetManagement : Bool := false
  signedFleetManagement : Bool := false
  extendedServiceLifetime : Bool := false
  authenticationDelegator : Bool := false
  orgAdmin : Bool := false
deriving DecidableEq

/-- Special capabilities of a server of the fleet. -/
structure ServerPermissions where
  submission : Bool := false
  streams : Bool := false
  serviceHost : Bool := false
deriving DecidableEq

/-- The identity of a user's client. -/
structure ClientClaims extends StandardClaims where
  /-- The public key of the client, as text. -/
  publicKey : Text := []
  /-- The identity of the user. -/
  callerId : Text := []
  /-- The agents that the client may use. -/
  allowedAgents : Option (List Text) := none
  /-- The policy that requests are checked against. -/
  opaPolicy : Option Text := none
  /-- Special capabilities. -/
  permissions : Option ClientPermissions := none
  /-- Properties of the user. -/
  userProperties : Option (List (Text × Text)) := none
  /-- Subjects that the client may publish to besides the usual ones. -/
  additionalPublishSubjects : Option (List Text) := none
  /-- The organization of the user. -/
  organization : Option Text := none
deriving DecidableEq

/-- The identity of a server and the collectives it belongs to. -/
structure ServerClaims extends StandardClaims where
  /-- The public key of the server, as text. -/
  publicKey : Text := []
  /-- The identity of the server. -/
  identity : Text := []
  /-- The collectives that the server belongs to. -/
  collectives : List Text := []
  /-- Special capabilities. -/
  permissions : Option ServerPermissions := none
  /-- Subjects that the server may publish to besides the usual ones. -/
  additionalPublishSubjects : Option (List Text) := none
  /-- The organization of the server. -/
  organization : Option Text := none
deriving DecidableEq

/-- The kinds of claims. -/
inductive ClaimsType where
  | standard
  | provisioning
  | client
  | server
deriving DecidableEq

namespace ClaimsType

/-- The name that errors give to a kind of claims. -/
def name : ClaimsType → String
  | .standard => "StandardClaims"
  | .provisioning => "ProvisioningClaims"
  | .client => "ClientIDClaims"
  | .server => "ServerClaims"

/-- The purpose that tokens of this kind have. The envelope alone is for any purpose. -/
def purpose : ClaimsType → Purpose
  | .standard => .unknown
  | .provisioning => .provisioning
  | .client => .client
  | .server => .server

end ClaimsType

/-- The kind of claims that tokens of a known purpose carry. -/
def Purpose.claimsType? : Purpose → Option ClaimsType
  | .unknown => none
  | .provisioning => some .provisioning
  | .client => some .client
  | .server => some .server

/-- Claims of any kind. -/
inductive Claims where
  /-- The envelope alone. -/
  | standard (claims : StandardClaims)
  /-- Claims for provisioning. -/
  | provisioning (claims : ProvisioningClaims)
  /-- Claims of a client. -/
  | client (claims : ClientClaims)
  /-- Claims of a server. -/
  | server (claims : ServerClaims)

namespace Claims

/-- The kind of the claims. -/
def type : Claims → ClaimsType
  | .standard _ => .standard
  | .provisioning _ => .provisioning
  | .client _ => .client
  | .server _ => .server

/-- The part that all kinds of claims share. -/
def envelope : Claims → StandardClaims
  | .standard claims => claims
  | .provisioning claims => claims.toStandardClaims
  | .client claims => claims.toStandardClaims
  | .server claims => claims.toStandardClaims

end Claims

end FleetToken
