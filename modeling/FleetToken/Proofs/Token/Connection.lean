import FleetToken.Connection
import FleetToken.Proofs.Claims.TwoPhases
import FleetToken.Proofs.Token.Inspection

/-!
# Connections of verified tokens

A connection is made without a key: its identity is what inspection finds in the token. For every
token that some key verifies this is the identity that the verified claims name, so that a client
listens at the inbox that the broker expects. The token is shown to the broker as it is, and no file
is read before a nonce is signed.

## Main definitions

* `ConnectsAs`: a connection under an identity, or its refusal if the identity is empty.

## Main results

* `connectsAs_of_parseAnyToken`: verified claims decide the connection of their token.
* `exists_unconnected`: verified claims that name an identity without an inbox.
-/

namespace FleetToken

/-- Within a collective a token connects under an identity: at the inbox of the identity, or not at
all if the identity is empty. -/
structure ConnectsAs (token : TokenInput) (collective seedFile identity : Text)
    (fault : ClaimsFault) : Prop where
  /-- An empty identity is refused. -/
  refused : identity = [] →
    Connection.ofToken token collective seedFile = .error (.token (.invalidClaims fault))
  /-- Any other identity decides the inbox, and the token is passed on. -/
  outcome : identity ≠ [] → Connection.ofToken token collective seedFile
    = (inboxFor collective identity).map fun inbox => ⟨inbox, token, seedFile⟩
  /-- There is an inbox for every identity without surrogates. -/
  connected : identity ≠ [] → identity.WellFormed → ∃ inbox,
    inboxFor collective identity = .ok inbox
      ∧ Connection.ofToken token collective seedFile = .ok ⟨inbox, token, seedFile⟩

/-- The inbox of an identity without surrogates. -/
theorem inboxFor_of_wellFormed {identity : Text} (h : identity.WellFormed) (collective : Text) :
    inboxFor collective identity = .ok (collective ++ Text.ofString ".reply."
      ++ Hex.encode (Digest.md5 identity.toUtf8)) := by
  rw [inboxFor, Text.encodeUtf8?_of_wellFormed h]

/-- A well-formed identity has an inbox in every collective. -/
theorem exists_inboxFor {identity : Text} (h : identity.WellFormed) (collective : Text) :
    ∃ inbox, inboxFor collective identity = .ok inbox :=
  ⟨_, inboxFor_of_wellFormed h collective⟩

section Stated

variable {token : TokenInput} {collective seedFile : Text}

/-- A connection is made with the identity that its token states, or fails as the identity does. -/
theorem ofToken_eq_of_statedIdentity {outcome : Except Failure Text}
    (hcollective : collective ≠ []) (hseed : seedFile ≠ []) (h : statedIdentity token = outcome) :
    Connection.ofToken token collective seedFile = do
      return ⟨← inboxFor collective (← outcome), token, seedFile⟩ := by
  simp only [Connection.ofToken, if_neg hcollective, if_neg hseed, h]

/-- A token that states an identity, or an empty one, connects accordingly. -/
theorem connectsAs_of_statedIdentity {identity : Text} {fault : ClaimsFault}
    (hcollective : collective ≠ []) (hseed : seedFile ≠ [])
    (h : statedIdentity token =
      if identity = [] then .error (.token (.invalidClaims fault)) else .ok identity) :
    ConnectsAs token collective seedFile identity fault := by
  have hofToken := ofToken_eq_of_statedIdentity hcollective hseed h
  have houtcome (hne : identity ≠ []) : Connection.ofToken token collective seedFile
      = (inboxFor collective identity).map fun inbox => ⟨inbox, token, seedFile⟩ := by
    rw [hofToken, if_neg hne, ok_bind]
    cases inboxFor collective identity <;> rfl
  constructor
  case refused =>
    intro hempty
    rw [hofToken, if_pos hempty, error_bind]
  case outcome => exact houtcome
  case connected =>
    intro hne hidentity
    obtain ⟨inbox, hinbox⟩ := exists_inboxFor hidentity collective
    refine ⟨inbox, hinbox, ?_⟩
    rw [houtcome hne, hinbox]
    rfl

end Stated

/-! ## What inspection finds -/

/-- Inspection finds the payload of an authentic token. -/
theorem inspect_of_authenticatedPayload {token : Text} {key : KeyArgument} {payload : Members}
    (h : authenticatedPayload (.text token) key = .ok payload) :
    ∃ algorithm, InspectedToken.ofInput (.text token)
      = .ok ⟨algorithm, Purpose.ofMembers payload, payload⟩ := by
  obtain ⟨pair, method, header, segment, signature, -, hendorses, bytes, hsegment, hpayload⟩ :=
    endorses_of_authenticatedPayload h
  obtain ⟨headerBytes, members, hheader, hmembers, -⟩ := hendorses.alg_eq
  have hfirst := hendorses.firstSegments_eq hsegment
  have hinspectHeader : inspectHeader token = .ok members := by
    rw [inspectHeader, hfirst, ok_bind, inspectSegment_of_decode? hheader hmembers]
  have hinspectPayload : inspectPayload token = .ok payload := by
    rw [inspectPayload, hfirst, ok_bind, inspectSegment_of_decode? hsegment hpayload]
  exact ⟨statedAlgorithm members, (inspected_of_segments hinspectHeader hinspectPayload).1⟩

/-- The identity that claims connect under, or the reason why they do not. -/
def Claims.connectionIdentity : Claims → Except Failure Text
  | .client c =>
    if c.callerId = [] then .error (.token (.invalidClaims .noCaller)) else .ok c.callerId
  | .server c =>
    if c.identity = [] then .error (.token (.invalidClaims .noServerIdentity)) else .ok c.identity
  | claims => .error (.token (.unsupportedPurpose claims.type.purpose))

/-- The identity that a token states is that of the claims which its payload is routed to. -/
theorem statedIdentity_of_inspected {token : TokenInput} {algorithm : Text} {payload : Members}
    {claims : Claims} (hinspected : InspectedToken.ofInput token
      = .ok ⟨algorithm, Purpose.ofMembers payload, payload⟩)
    (hclaims : Claims.Routed payload claims) :
    claims.type ≠ .standard ∧ statedIdentity token = claims.connectionIdentity := by
  obtain ⟨kind, hkind, hstated, hdecoded⟩ := hclaims
  have hknown := ClaimsType.purpose_ne_unknown hkind
  -- The purpose that is inspected is that of the kind, and the claims are decoded as this kind.
  have hpurpose : Purpose.ofMembers payload = kind.purpose :=
    (Purpose.ofMembers_eq_iff hknown).mpr hstated
  have htype : claims.type = kind :=
    (Claims.envelope_of_ofMembers ((Claims.decodeAs_eq_ok_iff hknown).mp hdecoded).1).1
  subst htype
  refine ⟨hkind, ?_⟩
  rw [statedIdentity, hinspected, ok_bind, hpurpose]
  cases claims with
  | standard c => exact absurd rfl hkind
  | provisioning c => rfl
  | client c =>
    replace hdecoded : Claims.decodeAs .client (.object payload) = .ok (.client c) := hdecoded
    simp only [Claims.type, ClaimsType.purpose, InspectedToken.claimsAs, hdecoded, ok_bind]
    rfl
  | server c =>
    replace hdecoded : Claims.decodeAs .server (.object payload) = .ok (.server c) := hdecoded
    simp only [Claims.type, ClaimsType.purpose, InspectedToken.claimsAs, hdecoded, ok_bind]
    rfl

/-! ## Verified claims -/

/-- Without a key a token states the identity that its verified claims connect under. -/
theorem statedIdentity_of_parseAnyToken {token : Text} {key : KeyArgument} {clock : Clock}
    {claims : Claims} (h : parseAnyToken (.text token) key clock = .ok claims) :
    claims.type ≠ .standard ∧ statedIdentity (.text token) = claims.connectionIdentity := by
  obtain ⟨payload, hverified, hdecoded⟩ := bind_eq_ok_iff.mp h
  obtain ⟨algorithm, hinspected⟩ :=
    inspect_of_authenticatedPayload (verifiedPayload_eq_ok_iff.mp hverified).1
  exact statedIdentity_of_inspected hinspected
    (Claims.decode_eq_ok_iff.mp hdecoded)

/-- Claims that are verified decide the connection of their token: a client connects as its caller,
a server as its identity, and tokens for provisioning are of no use. The token alone decides, and
no file. -/
theorem connectsAs_of_parseAnyToken (token : Text) (key : KeyArgument) (clock : Clock)
    (collective seedFile : Text) (claims : Claims) (hcollective : collective ≠ [])
    (hseed : seedFile ≠ []) (h : parseAnyToken (.text token) key clock = .ok claims) :
    match claims with
    | .client c => ConnectsAs (.text token) collective seedFile c.callerId .noCaller
    | .server c => ConnectsAs (.text token) collective seedFile c.identity .noServerIdentity
    | .provisioning _ => Connection.ofToken (.text token) collective seedFile
        = .error (.token (.unsupportedPurpose .provisioning))
    | .standard _ => False := by
  obtain ⟨hkind, hidentity⟩ := statedIdentity_of_parseAnyToken h
  cases claims with
  | standard c => exact hkind rfl
  | provisioning c => exact ofToken_eq_of_statedIdentity hcollective hseed hidentity
  | client c => exact connectsAs_of_statedIdentity hcollective hseed hidentity
  | server c => exact connectsAs_of_statedIdentity hcollective hseed hidentity

/-- A server that connects as its identity. -/
theorem exists_connectsAs_mersennePair : ∃ token claims,
    parseAnyToken (.text token) mersennePair.publicArgument (.mk 0) = .ok (.server claims)
      ∧ claims.identity = Text.ofString "node"
      ∧ ConnectsAs (.text token) (Text.ofString "fleet") (Text.ofString "seed") claims.identity
        .noServerIdentity := by
  have hpayload := Json.lossless_named [("purpose", .string Purpose.server.text),
    ("identity", .string (Text.ofString "node"))] (by decide)
    (by simpa using ⟨.string (Text.unpaired_ofString _), .string (Text.unpaired_ofString "node")⟩)
  obtain ⟨token, hverified⟩ := exists_verified_mersennePair hpayload.isWritable
    (Json.decode_compact hpayload) (.mk 0) rfl
  have hparsed : parseAnyToken (.text token) mersennePair.publicArgument (.mk 0)
      = .ok (.server { purpose := .server, identity := Text.ofString "node" }) := by
    rw [parseAnyToken, hverified]
    rfl
  exact ⟨token, _, hparsed, rfl,
    connectsAs_of_parseAnyToken token mersennePair.publicArgument (.mk 0)
      (Text.ofString "fleet") (Text.ofString "seed") _ (by decide) (by decide) hparsed⟩

/-- A caller whose name is half of a surrogate pair is verified and has no inbox. -/
theorem exists_unconnected : ∃ token claims,
    parseAnyToken (.text token) mersennePair.publicArgument (.mk 0) = .ok (.client claims)
      ∧ claims.callerId = [.ofNat 0xD800]
      ∧ Connection.ofToken (.text token) (Text.ofString "fleet") (Text.ofString "seed")
        = .error .unencodableText := by
  have hpayload := Json.lossless_named [("purpose", .string Purpose.client.text),
    ("callerid", .string [.ofNat 0xD800])] (by decide)
    (by simpa using ⟨.string (Text.unpaired_ofString _), .string (List.isChain_singleton _)⟩)
  obtain ⟨token, hverified⟩ := exists_verified_mersennePair hpayload.isWritable
    (Json.decode_compact hpayload) (.mk 0) rfl
  have hparsed : parseAnyToken (.text token) mersennePair.publicArgument (.mk 0)
      = .ok (.client { purpose := .client, callerId := [.ofNat 0xD800] }) := by
    rw [parseAnyToken, hverified]
    rfl
  have hidentity := (statedIdentity_of_parseAnyToken hparsed).2
  exact ⟨token, _, hparsed, rfl, ofToken_eq_of_statedIdentity (by decide) (by decide) hidentity⟩

end FleetToken
