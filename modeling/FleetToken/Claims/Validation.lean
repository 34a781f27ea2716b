import FleetToken.Claims.Field
import FleetToken.Claims.Issue
import FleetToken.Time.Reader

/-!
# Validation of claims

Claims are read from the members of a payload. The wire name of a field wins over its plain name;
unknown members are passed over, and absent ones leave the field at its default. Truth values may
be written as numbers or words, dates in many ways, texts only as texts. All issues are reported,
in the order of the fields.

## Main definitions

- `Claims.validate`: claims of a given kind from a value.
-/

namespace FleetToken

namespace Reading

/-- A text. -/
def text : Json → Checked Text
  | .string t => .ok t
  | _ => .fault .stringType

/-- The words for false and true. -/
def flagWords : List (String × Bool) :=
  [("0", false), ("off", false), ("f", false), ("false", false), ("n", false), ("no", false),
    ("1", true), ("on", true), ("t", true), ("true", true), ("y", true), ("yes", true)]

/-- The truth value of a number: zero or one. -/
def flagOfInt (n : Int) : Checked Bool :=
  if n = 0 then .ok false else if n = 1 then .ok true else .fault .boolParsing

/-- Whether an integer fits in sixty-four bits. -/
def fitsWord (n : Int) : Bool :=
  -0x8000000000000000 ≤ n && n < 0x8000000000000000

/-- A truth value, also written as a number or as a word in any letter case. -/
def flag : Json → Checked Bool
  | .bool b => .ok b
  | .int n => if fitsWord n then flagOfInt n else .fault .boolType
  | .float x =>
    match x.ratio? with
    | some (num, den) =>
      -- A whole number in the same range, of which the least integer is left out.
      let n := num / den
      if n * den = num ∧ -0x8000000000000000 < n ∧ n < 0x8000000000000000 then flagOfInt n
      else .fault .boolType
    | none => .fault .boolType
  | .string t =>
    if t.any CodePoint.isSurrogate then .fault .stringUnicode
    else
      match (flagWords.map fun (word, b) => (Text.ofString word, b)).lookup t.toAsciiLower with
      | some b => .ok b
      | none => .fault .boolParsing
  | _ => .fault .boolType

/-- A value that may be `null`. -/
def optional {α : Type} (read : Json → Checked α) : Json → Checked (Option α)
  | .null => .ok none
  | value => some <$> read value

/-- A list of texts. -/
def texts : Json → Checked (List Text)
  | .array items =>
    Checked.all (items.zipIdx.map fun (item, i) => (text item).under (.index i))
  | _ => .fault .listType

/-- An object of texts. Issues name a key without its surrogates. -/
def properties : Json → Checked (List (Text × Text))
  | .object members =>
    Checked.all (members.map fun (key, value) =>
      (fun t => (key, t)) <$> (text value).under (.key key.replaceSurrogates))
  | _ => .fault .dictType

/-- An object of any values. -/
def members : Json → Checked Members
  | .object members => .ok members
  | _ => .fault .dictType

/-- The value of a field, or the default if neither of its names is present. -/
def field {α : Type} (payload : Members) (name : FieldName) (default : α)
    (read : Json → Checked α) : Checked α :=
  let wire := Text.ofString name.wire
  let plain := Text.ofString name.name
  match payload.get? wire with
  | some value => (read value).under (.key wire)
  | none =>
    -- Issues name the field as the payload does.
    match payload.get? plain with
    | some value => (read value).under (.key plain)
    | none => .ok default

/-- A flag of some permissions, which is false if absent. -/
def permission (payload : Members) (name : String) : Checked Bool :=
  field payload (.same name) false flag

/-- The permissions of a client. -/
def clientPermissions : Json → Checked ClientPermissions
  | .object payload =>
    ClientPermissions.mk <$> permission payload "streams_admin"
      <*> permission payload "streams_user" <*> permission payload "events_viewer"
      <*> permission payload "election_user" <*> permission payload "system_user"
      <*> permission payload "fleet_management" <*> permission payload "signed_fleet_management"
      <*> permission payload "extended_service_lifetime"
      <*> permission payload "authentication_delegator" <*> permission payload "org_admin"
  | _ => .fault .modelType

/-- The permissions of a server. -/
def serverPermissions : Json → Checked ServerPermissions
  | .object payload =>
    ServerPermissions.mk <$> permission payload "submission" <*> permission payload "streams"
      <*> permission payload "service_host"
  | _ => .fault .modelType

/-- The envelope, with the purpose of the kind if none is stated. A stated purpose that is not
known is the unknown one. -/
def envelope (kind : ClaimsType) (payload : Members) : Checked StandardClaims :=
  StandardClaims.mk
    <$> field payload .purpose kind.purpose (fun value => .ok (Purpose.ofJson value))
    <*> field payload .issuer [] text
    <*> field payload .subject none (optional text)
    <*> field payload .issuedAt none (optional Timestamp.ofJson)
    <*> field payload .notBefore none (optional Timestamp.ofJson)
    <*> field payload .expiresAt none (optional Timestamp.ofJson)
    <*> field payload .tokenId none (optional text)
    <*> field payload .trustChainSignature none (optional text)

/-- Provisioning claims. -/
def provisioning (payload : Members) : Checked ProvisioningClaims :=
  ProvisioningClaims.mk <$> envelope .provisioning payload
    <*> field payload .secure false flag
    <*> field payload .urls none (optional text)
    <*> field payload .token [] text
    <*> field payload .srvDomain none (optional text)
    <*> field payload .provisionByDefault false flag
    <*> field payload .registrationData none (optional text)
    <*> field payload .factsData none (optional text)
    <*> field payload .brokerUser none (optional text)
    <*> field payload .brokerPassword none (optional text)
    <*> field payload .organization none (optional text)
    <*> field payload .protocolV2 none (optional flag)
    <*> field payload .allowUpdate none (optional flag)
    <*> field payload .extensions none (optional members)

/-- Client claims. -/
def client (payload : Members) : Checked ClientClaims :=
  ClientClaims.mk <$> envelope .client payload
    <*> field payload .publicKey [] text
    <*> field payload .callerId [] text
    <*> field payload .allowedAgents none (optional texts)
    <*> field payload .opaPolicy none (optional text)
    <*> field payload .permissions none (optional clientPermissions)
    <*> field payload .userProperties none (optional properties)
    <*> field payload .additionalPublishSubjects none (optional texts)
    <*> field payload .organization none (optional text)

/-- Server claims. -/
def server (payload : Members) : Checked ServerClaims :=
  ServerClaims.mk <$> envelope .server payload
    <*> field payload .publicKey [] text
    <*> field payload .identity [] text
    <*> field payload .collectives [] texts
    <*> field payload .permissions none (optional serverPermissions)
    <*> field payload .additionalPublishSubjects none (optional texts)
    <*> field payload .organization none (optional text)

end Reading

/-- Claims of a kind from the members of a payload. -/
def Claims.ofMembers (kind : ClaimsType) (payload : Members) : Checked Claims :=
  match kind with
  | .standard => Claims.standard <$> Reading.envelope .standard payload
  | .provisioning => Claims.provisioning <$> Reading.provisioning payload
  | .client => Claims.client <$> Reading.client payload
  | .server => Claims.server <$> Reading.server payload

/-- Claims of a kind from a value, which must be an object. -/
def Claims.validate (kind : ClaimsType) (payload : Json) : Checked Claims :=
  match payload with
  | .object members => ofMembers kind members
  | _ => .fault .modelType

end FleetToken
