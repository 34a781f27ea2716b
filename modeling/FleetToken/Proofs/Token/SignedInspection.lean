import FleetToken.Proofs.Claims.Readable
import FleetToken.Proofs.Token.Inspection
import FleetToken.Proofs.Token.RoundTrip

/-!
# Inspection says what was signed

A signed token has three segments in unpadded Base64. Inspection finds the algorithm of the family
that the private key really is of, the purpose of the claims, and their payload. It does so whether
or not the claims are valid at the time, and whatever label the key has: under a wrong label nothing
is signed. Only where the two halves of a surrogate pair stand side by side in a string is another
payload found, with one code point in their place.

## Main results

* `PrivateKey.family_of_sign`: a private key signs under the label of its own family only.
* `PrivateKey.ofInput_of_token`: what inspection says of a token with a payload.
* `Claims.inspected_of_sign`: what inspection says of a token with claims.
-/

namespace FleetToken

/-! ## Inspected tokens -/

/-- A private key signs under the label of its own family only. -/
theorem PrivateKey.family_of_sign {key : PrivateKey} {family : KeyFamily} {input signature : Bytes}
    (h : key.sign family input = .ok signature) : key.family = family := by
  cases key with
  | ed25519 seed =>
    cases family with
    | ed25519 => rfl
    | rsa => contradiction
  | rsa key =>
    cases family with
    | ed25519 => contradiction
    | rsa => rfl

namespace PrivateKey

variable {key : PrivateKey} {family : KeyFamily} {payload : Members} {t : Text}

/-- The header of a signed token is inspected and states the algorithm of the key. -/
theorem exists_inspectHeader_of_token (h : key.token family payload = .ok t) :
    ∃ header, inspectHeader t = .ok header
      ∧ statedAlgorithm header = Text.ofString key.family.algorithm := by
  obtain ⟨-, signature, hsignature, rfl⟩ := token_eq_ok_iff.mp h
  obtain ⟨header, hheader⟩ : ∃ header, signingHeader family.algorithm = .object header := ⟨_, rfl⟩
  have hdecoded := Json.decode_compact (lossless_signingHeader family.algorithm)
  refine ⟨header, ?_, ?_⟩
  · rw [inspectHeader, jsonSegment, jsonSegment, firstSegments_ofAscii_tokenBytes, ok_bind]
    refine inspectSegment_of_decode? (Base64.decode?_toUtf8_ofAscii_encode _) ?_
    rw [hdecoded, hheader]
  · rw [family_of_sign hsignature]
    obtain rfl := Json.object.inj hheader
    rfl

/-- The payload of a signed token is inspected with its surrogate pairs joined. -/
theorem inspectPayload_of_token (h : key.token family payload = .ok t)
    (hpayload : (Json.object payload).Readable) :
    inspectPayload t = .ok (Json.joinMembers payload) := by
  obtain ⟨-, signature, -, rfl⟩ := token_eq_ok_iff.mp h
  rw [inspectPayload, jsonSegment, jsonSegment, firstSegments_ofAscii_tokenBytes, ok_bind]
  exact inspectSegment_of_decode? (Base64.decode?_toUtf8_ofAscii_encode _)
    hpayload.decode_compact

/-- Inspection says of a token with a payload what the key is and what the payload says. -/
theorem ofInput_of_token (h : key.token family payload = .ok t)
    (hpayload : (Json.object payload).Readable) :
    InspectedToken.ofInput (.text t) = .ok {
        algorithm := Text.ofString key.family.algorithm
        purpose := Purpose.ofMembers (Json.joinMembers payload)
        payload := Json.joinMembers payload }
      ∧ TokenInput.purpose (.text t) = .ok (Purpose.ofMembers (Json.joinMembers payload))
      ∧ TokenInput.signingAlgorithm (.text t) = .ok (Text.ofString key.family.algorithm) := by
  obtain ⟨header, hheader, hstated⟩ := exists_inspectHeader_of_token h
  rw [← hstated]
  exact inspected_of_segments hheader (inspectPayload_of_token h hpayload)

end PrivateKey

/-! ## Inspected claims -/

namespace Claims

/-- The payload states the purpose of the claims. -/
theorem purpose_of_payload {c : Claims} {zone : LocalZone} {payload : Members}
    (h : c.payload zone = .ok payload) :
    Purpose.ofMembers (Json.joinMembers payload) = c.envelope.purpose := by
  have hmem : ⟨.purpose, some (.purpose c.envelope.purpose)⟩ ∈ c.fields :=
    mem_fields_of_mem_envelope List.mem_cons_self
  have hget : payload.get? (Text.ofString "purpose")
      = some (.string c.envelope.purpose.text) := get?_of_payload h hmem
  -- The names of purposes hold no surrogates to join.
  have hjoined : c.envelope.purpose.text.joinPairs = c.envelope.purpose.text :=
    Text.joinPairs_eq_self_iff.mpr (Text.unpaired_ofString c.envelope.purpose.name)
  rw [Purpose.ofMembers, Json.get?_joinMembers, hget, Option.map_some, Json.joinHalves, hjoined]
  exact Purpose.ofText_text c.envelope.purpose

/-- A token with claims without floating-point numbers has three segments in unpadded Base64, and
inspection finds what was signed: the algorithm of the private key, the purpose of the claims and
their payload, with halves of surrogate pairs joined if they stand side by side. -/
theorem inspected_of_sign (c : Claims) (hfloats : c.FloatFree) (key : KeyArgument)
    {zone : LocalZone} (t : Text) (hsign : c.sign key zone = .ok t) :
    ∃ pair privateKey payload header body signature,
      KeyPair.ofArgument key = .ok pair ∧ pair.privateKey = some privateKey
      ∧ c.payload zone = .ok payload
      ∧ t = .ofAscii (tokenBytes header body signature)
      ∧ (∀ segment ∈ [header, body, signature], ∀ b ∈ segment, Base64.IsUrlByte b)
      ∧ TokenInput.purpose (.text t) = .ok c.envelope.purpose
      ∧ TokenInput.signingAlgorithm (.text t) = .ok (Text.ofString privateKey.family.algorithm)
      ∧ InspectedToken.ofInput (.text t) = .ok {
        algorithm := Text.ofString privateKey.family.algorithm
        purpose := c.envelope.purpose
        payload := Json.joinMembers payload }
      ∧ (Json.joinMembers payload = payload ↔ (Json.object payload).Unpaired) := by
  obtain ⟨pair, privateKey, payload, hpair, hprivate, -, hpayload, htoken⟩ :=
    sign_eq_ok_iff.mp hsign
  obtain ⟨hwritable, signature, -, ht⟩ := PrivateKey.token_eq_ok_iff.mp htoken
  obtain ⟨hview, hpurpose, halgorithm⟩ :=
    PrivateKey.ofInput_of_token htoken (readable_of_payload hfloats hpayload hwritable)
  rw [purpose_of_payload hpayload] at hview hpurpose
  refine ⟨pair, privateKey, payload, _, _, _, hpair, hprivate, hpayload, ht, ?_, hpurpose,
    halgorithm, hview, ?_⟩
  · simp only [List.forall_mem_cons, List.not_mem_nil, false_imp_iff, implies_true, and_true]
    exact ⟨Base64.isUrlByte_encode _, Base64.isUrlByte_encode _, Base64.isUrlByte_encode _⟩
  · rw [← Json.joinHalves_eq_self_iff, Json.joinHalves, Json.object.injEq]

/-- A server's claims that are signed long after they have expired, and inspected as they are. -/
theorem exists_inspected_serverSample : ∃ t payload, serverSample.FloatFree
    ∧ serverSample.sign (.pair mersennePair) = .ok t ∧ serverSample.payload = .ok payload
    ∧ InspectedToken.ofInput (.text t) = .ok {
      algorithm := Text.ofString "RS256"
      purpose := .server
      payload } := by
  have hfloats : serverSample.FloatFree := by simp [FloatFree, serverSample, extensions?]
  obtain ⟨t, hsign, -⟩ := serverSample_portable.exists_sign mersennePair_verifiesItself .utc
  obtain ⟨pair, privateKey, payload, -, -, -, hpair, hprivate, hpayload, -, -, -, -, hview,
    hjoined⟩ := inspected_of_sign serverSample hfloats (.pair mersennePair) t hsign
  -- The key is the only one in the pair, and no text has anything to join.
  obtain rfl := Except.ok.inj hpair
  obtain rfl := Option.some.inj hprivate
  have hlossless := serverSample_portable.lossless
  rw [← Except.ok.inj (hpayload.symm.trans serverSample_portable.canonical.payload_eq)]
    at hlossless
  rw [hjoined.mpr hlossless.unpaired] at hview
  exact ⟨t, payload, hfloats, hsign, hpayload, hview⟩

/-- Not every signed token is inspected as what was signed: the two halves of a surrogate pair side
by side are found as one code point. -/
theorem not_inspected_of_sign : ∃ t payload,
    (subjectSample [.ofNat 0xD83D, .ofNat 0xDE00]).FloatFree
      ∧ (subjectSample [.ofNat 0xD83D, .ofNat 0xDE00]).sign (.pair mersennePair) = .ok t
      ∧ (subjectSample [.ofNat 0xD83D, .ofNat 0xDE00]).payload = .ok payload
      ∧ ∀ view, InspectedToken.ofInput (.text t) = .ok view → view.payload ≠ payload := by
  have hfloats : (subjectSample [.ofNat 0xD83D, .ofNat 0xDE00]).FloatFree := by
    simp [FloatFree, subjectSample, extensions?]
  have hwritten : (subjectSample [.ofNat 0xD83D, .ofNat 0xDE00]).payload
      = .ok [(Text.ofString "purpose", .string []), (Text.ofString "iss", .string []),
        (Text.ofString "sub", .string [.ofNat 0xD83D, .ofNat 0xDE00])] := by rfl
  obtain ⟨t, hsign, -⟩ := mersennePair_verifiesItself.exists_sign
    (c := subjectSample [.ofNat 0xD83D, .ofNat 0xDE00]) rfl hwritten rfl
  refine ⟨t, _, hfloats, hsign, hwritten, fun view hview hsame => ?_⟩
  obtain ⟨pair, privateKey, payload, -, -, -, hpayload, htoken⟩ := sign_eq_ok_iff.mp hsign
  obtain rfl := Except.ok.inj (hwritten.symm.trans hpayload)
  have hread := readable_of_payload hfloats hpayload (PrivateKey.token_eq_ok_iff.mp htoken).1
  obtain ⟨hfound, -, -⟩ := PrivateKey.ofInput_of_token htoken hread
  have hview := congrArg InspectedToken.payload (Except.ok.inj (hfound.symm.trans hview))
  have hjoined : Json.joinMembers _ = _ := hview.trans hsame
  -- The subject has one code point less.
  have hsubject := congrArg (fun members : Members =>
    (members.get? (Text.ofString "sub")).bind Json.string?) hjoined
  exact absurd hsubject (by decide)

end Claims

end FleetToken
