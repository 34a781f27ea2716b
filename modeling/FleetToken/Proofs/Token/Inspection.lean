import FleetToken.Proofs.Claims.Purpose
import FleetToken.Proofs.Text.Blank
import FleetToken.Proofs.Token.Inspectable
import FleetToken.Proofs.Token.Soundness

/-!
# Inspection agrees with verification

Inspection reads a token with a lenient decoder of its own. On every token that is right under some
key it says what verification says: the same payload, the algorithm that was verified, and the
purpose that the payload states. So a choice that is made by inspection is the choice that is
verified.

## Main results

* `inspected_of_verifiedPayload`: what inspection says of a verified token.
-/

namespace FleetToken

/-! ## What inspection says -/

/-- The first two of an endorsed token's segments are found. -/
theorem KeyPair.Endorses.firstSegments_eq {pair : KeyPair} {method : SigningMethod}
    {token header payload signature : Text} {bytes : Bytes}
    (h : pair.Endorses method token header payload signature)
    (hpayload : Base64.decode? .url payload.toUtf8 = some bytes) :
    firstSegments token = .ok (header, payload) := by
  obtain ⟨headerBytes, -, hheader, -⟩ := h.alg_eq
  obtain ⟨signatureBytes, hsignature, -⟩ := h.accepted
  exact firstSegments_eq_of_split h.split_eq (not_isBlank_of_decode? hheader).2
    (not_isBlank_of_decode? hpayload).2 (not_isBlank_of_decode? hsignature).2

/-- Inspection says of a verified token what verification says: the payload, the algorithm whose
primitive accepted the signature, and the purpose that the payload states. -/
theorem inspected_of_verifiedPayload (token : Text) (key : KeyArgument) (clock : Clock)
    {payload : Members} (h : verifiedPayload (.text token) key clock = .ok payload) :
    ∃ pair method header segment signature, KeyPair.ofArgument key = .ok pair
      ∧ pair.Endorses method token header segment signature
      ∧ InspectedToken.ofInput (.text token)
        = .ok ⟨Text.ofString method.name, Purpose.ofMembers payload, payload⟩
      ∧ TokenInput.purpose (.text token) = .ok (Purpose.ofMembers payload)
      ∧ TokenInput.signingAlgorithm (.text token) = .ok (Text.ofString method.name)
      ∧ ∀ purpose, purpose ≠ .unknown → (Purpose.ofMembers payload = purpose ↔
        payload.get? (Text.ofString "purpose") = some (.string purpose.text)) := by
  rw [verifiedPayload_eq] at h
  -- The look at the time leaves the payload as it is.
  obtain ⟨found, hauthentic, hchecked⟩ := bind_eq_ok_iff.mp h
  obtain ⟨-, -, hfound⟩ := bind_eq_ok_iff.mp hchecked
  obtain rfl := Except.ok.inj hfound
  obtain ⟨pair, method, header, segment, signature, hpair, hendorses, bytes, hsegment, hmembers⟩ :=
    endorses_of_authenticatedPayload hauthentic
  obtain ⟨headerBytes, headerMembers, hheader, hheaderMembers, halg⟩ := hendorses.alg_eq
  -- Inspection cuts the same segments, and reads the same objects from them.
  have hfirst := hendorses.firstSegments_eq hsegment
  have hinspectHeader : inspectHeader token = .ok headerMembers := by
    rw [inspectHeader, hfirst, ok_bind, inspectSegment_of_decode? hheader hheaderMembers]
  have hinspectPayload : inspectPayload token = .ok found := by
    rw [inspectPayload, hfirst, ok_bind, inspectSegment_of_decode? hsegment hmembers]
  have hstated : statedAlgorithm headerMembers = Text.ofString method.name := by
    simp [statedAlgorithm, halg, Json.string?]
  obtain ⟨hview, hpurpose, halgorithm⟩ := inspected_of_segments hinspectHeader hinspectPayload
  rw [hstated] at hview halgorithm
  exact ⟨pair, method, header, segment, signature, hpair, hendorses, hview, hpurpose, halgorithm,
    fun purpose hknown => Purpose.ofMembers_eq_iff hknown⟩

/-- A token that states a purpose, and whose inspection finds it. -/
theorem exists_inspected_mersennePair : ∃ token,
    verifiedPayload (.text token) mersennePair.publicArgument (.mk 0)
        = .ok [(Text.ofString "purpose", .string Purpose.server.text)]
      ∧ TokenInput.purpose (.text token) = .ok .server := by
  have htext : Purpose.server.text.Unpaired := Text.unpaired_ofString _
  have hpayload :
      (Json.object [(Text.ofString "purpose", .string Purpose.server.text)]).Lossless := by
    refine .object (by decide) ?_ ?_
    · simpa using Text.unpaired_ofString "purpose"
    · simpa using Json.Lossless.string htext
  obtain ⟨privateKey, token, -, -, hauthentic⟩ :=
    mersennePair_verifiesItself.exists_token_publicArgument hpayload
  have hverified : verifiedPayload (.text token) mersennePair.publicArgument (.mk 0)
      = .ok [(Text.ofString "purpose", .string Purpose.server.text)] := by
    rw [verifiedPayload_eq, hauthentic]
    rfl
  obtain ⟨-, -, -, -, -, -, -, -, hpurpose, -⟩ :=
    inspected_of_verifiedPayload token mersennePair.publicArgument (.mk 0) hverified
  exact ⟨token, hverified, hpurpose⟩

end FleetToken
