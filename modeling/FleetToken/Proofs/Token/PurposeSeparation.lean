import FleetToken.Proofs.Claims.Purpose
import FleetToken.Proofs.Outcome
import FleetToken.Token.Verification

/-!
# Separation of purposes

A payload that states a purpose is accepted as claims of one kind at most, the kind of that
purpose. A payload that states none is not kept out: claims of each kind then take the purpose of
their kind, so that such a payload passes for all kinds that its other members fit.

## Main definitions

* `Claims.Accepted`: claims of a kind are decoded from a payload.
* `PurposeSeparates`: the purpose keeps the kinds of claims apart in a payload.

## Main results

* `purposeSeparates_iff`: the payloads in which the purpose keeps the kinds apart, and what this
  means for tokens.
* `not_purposeSeparates_nil`: the payload without members passes for every kind.
-/

namespace FleetToken

/-- Claims of a kind are decoded from a payload. -/
def Claims.Accepted (kind : ClaimsType) (payload : Members) : Prop :=
  ∃ claims, decodeAs kind (.object payload) = .ok claims

/-- The purpose keeps the kinds of claims apart in a payload. -/
structure PurposeSeparates (payload : Members) : Prop where
  /-- The payload is accepted as one kind at most, the envelope apart. -/
  unique : ∀ kind other : ClaimsType, kind ≠ .standard → other ≠ .standard →
    Claims.Accepted kind payload → Claims.Accepted other payload → kind = other
  /-- The payload is accepted only as the kind whose purpose it states. -/
  stated : ∀ kind : ClaimsType, kind ≠ .standard → Claims.Accepted kind payload →
    payload.get? (Text.ofString "purpose") = some (.string kind.purpose.text)

/-- Kinds are told apart by the text of their purpose. -/
theorem ClaimsType.purpose_text_inj {kind other : ClaimsType}
    (h : kind.purpose.text = other.purpose.text) : kind = other := by
  have hpurpose : kind.purpose = other.purpose := by
    rw [← Purpose.ofText_text kind.purpose, h, Purpose.ofText_text]
  cases kind <;> cases other <;> first | rfl | exact absurd hpurpose (by decide)

/-- A payload is accepted as a kind if its claims are read and it states the purpose of the kind, or
none. -/
theorem Claims.accepted_iff {kind : ClaimsType} {payload : Members} (hkind : kind ≠ .standard) :
    Accepted kind payload ↔ (∃ claims, ofMembers kind payload = .ok claims)
      ∧ (payload.get? (Text.ofString "purpose") = none
        ∨ payload.get? (Text.ofString "purpose") = some (.string kind.purpose.text)) := by
  simp only [Accepted, decodeAs_eq_ok_iff (ClaimsType.purpose_ne_unknown hkind),
    exists_and_right]

/-- Whatever is not decoded is refused for its claims. -/
theorem Claims.not_accepted_iff {kind : ClaimsType} {payload : Members} :
    ¬Accepted kind payload ↔
      ∃ fault, decodeAs kind (.object payload) = .error (.token (.invalidClaims fault)) := by
  rw [Accepted, decodeAs_eq]
  split
  · rename_i found hissues
    simp
  · rename_i claims hclaims
    split
    · simp
    · simp

/-- The payloads in which the purpose keeps the kinds apart are those that state one, and those
that are accepted as no kind at all. -/
theorem purposeSeparates_iff_isSome (payload : Members) : PurposeSeparates payload ↔
    (payload.get? (Text.ofString "purpose")).isSome
      ∨ ∀ kind : ClaimsType, kind ≠ .standard → ¬Claims.Accepted kind payload := by
  constructor
  · intro h
    -- A payload that states no purpose and is accepted as a kind does not separate the kinds.
    by_contra hnot
    obtain ⟨hnone, hsome⟩ := not_or.mp hnot
    push Not at hsome
    obtain ⟨kind, hkind, haccepted⟩ := hsome
    rw [h.stated kind hkind haccepted] at hnone
    exact hnone rfl
  · rintro (hsome | hnone)
    · -- A stated purpose is that of every kind that the payload is accepted as.
      have hstated : ∀ kind : ClaimsType, kind ≠ .standard → Claims.Accepted kind payload →
          payload.get? (Text.ofString "purpose") = some (.string kind.purpose.text) := by
        intro kind hkind haccepted
        rcases ((Claims.accepted_iff hkind).mp haccepted).2 with habsent | hpresent
        · rw [habsent] at hsome
          contradiction
        · exact hpresent
      refine ⟨fun kind other hkind hother haccepted hotherAccepted => ?_, hstated⟩
      have htext := (hstated kind hkind haccepted).symm.trans (hstated other hother hotherAccepted)
      exact ClaimsType.purpose_text_inj (Json.string.inj (Option.some.inj htext))
    · exact ⟨fun kind _ hkind _ haccepted => absurd haccepted (hnone kind hkind),
        fun kind hkind haccepted => absurd haccepted (hnone kind hkind)⟩

/-! ## Tokens -/

section Tokens

variable {token : TokenInput} {key : KeyArgument} {clock : Clock} {payload : Members}

/-- A token that is verified is parsed as its payload is decoded. -/
theorem parseToken_eq_of_verifiedPayload (h : verifiedPayload token key clock = .ok payload)
    (kind : ClaimsType) :
    parseToken token key clock kind = Claims.decodeAs kind (.object payload) := by
  rw [parseToken, h, ok_bind]

/-- It is parsed as the kinds that its payload is accepted as. -/
theorem parseToken_ok_iff (h : verifiedPayload token key clock = .ok payload)
    (kind : ClaimsType) :
    (∃ claims, parseToken token key clock kind = .ok claims) ↔ Claims.Accepted kind payload := by
  rw [parseToken_eq_of_verifiedPayload h, Claims.Accepted]

/-- As any other kind it is refused for its claims. -/
theorem parseToken_invalidClaims_iff (h : verifiedPayload token key clock = .ok payload)
    (kind : ClaimsType) :
    (∃ fault, parseToken token key clock kind = .error (.token (.invalidClaims fault)))
      ↔ ¬Claims.Accepted kind payload := by
  rw [parseToken_eq_of_verifiedPayload h, Claims.not_accepted_iff]

end Tokens

/-- The purpose keeps the kinds apart exactly in the payloads that state one and in those that are
accepted as no kind. A kind accepts the payloads that fit it and state its purpose or none. So a
token that is accepted as one kind is refused as another one for its claims exactly when it states
a purpose or does not fit the other kind. -/
theorem purposeSeparates_iff (payload : Members) :
    (PurposeSeparates payload ↔ (payload.get? (Text.ofString "purpose")).isSome
      ∨ ∀ kind : ClaimsType, kind ≠ .standard → ¬Claims.Accepted kind payload)
    ∧ (∀ kind : ClaimsType, kind ≠ .standard → (Claims.Accepted kind payload ↔
      (∃ claims, Claims.ofMembers kind payload = .ok claims)
        ∧ (payload.get? (Text.ofString "purpose") = none
          ∨ payload.get? (Text.ofString "purpose") = some (.string kind.purpose.text))))
    ∧ ∀ (token : TokenInput) (key : KeyArgument) (clock : Clock) (kind other : ClaimsType),
      verifiedPayload token key clock = .ok payload → kind ≠ .standard → other ≠ .standard →
      kind ≠ other → (∃ claims, parseToken token key clock kind = .ok claims) →
      ((∃ fault, parseToken token key clock other = .error (.token (.invalidClaims fault)))
        ↔ (payload.get? (Text.ofString "purpose")).isSome
          ∨ ¬∃ claims, Claims.ofMembers other payload = .ok claims) := by
  refine ⟨purposeSeparates_iff_isSome payload, fun kind hkind => Claims.accepted_iff hkind,
    fun token key clock kind other hpayload hkind hother hne haccepted => ?_⟩
  rw [parseToken_ok_iff hpayload, Claims.accepted_iff hkind] at haccepted
  rw [parseToken_invalidClaims_iff hpayload, Claims.accepted_iff hother]
  -- Without a purpose the other kind takes its own, and only the fields can refuse the payload.
  rcases haccepted.2 with hnone | hstated
  · simp [hnone]
  · have htext : kind.purpose.text ≠ other.purpose.text :=
      fun htext => hne (ClaimsType.purpose_text_inj htext)
    simp [hstated, htext]

/-- A payload that states the purpose of servers is a server's and no client's. -/
theorem purposeSeparates_server :
    PurposeSeparates [(Text.ofString "purpose", .string Purpose.server.text)]
      ∧ Claims.Accepted .server [(Text.ofString "purpose", .string Purpose.server.text)]
      ∧ ¬Claims.Accepted .client [(Text.ofString "purpose", .string Purpose.server.text)] := by
  obtain ⟨hseparates, haccepted, -⟩ :=
    purposeSeparates_iff [(Text.ofString "purpose", .string Purpose.server.text)]
  refine ⟨hseparates.mpr (.inl rfl), (haccepted .server (by decide)).mpr ⟨⟨_, rfl⟩, .inr rfl⟩, ?_⟩
  intro hclient
  rcases ((haccepted .client (by decide)).mp hclient).2 with hnone | hstated
  · exact absurd hnone (by decide)
  · exact absurd (Json.string.inj (Option.some.inj hstated)) (by decide)

/-- The payload without members passes for every kind, so that no purpose keeps these apart. -/
theorem not_purposeSeparates_nil :
    (∀ kind, Claims.Accepted kind []) ∧ ¬PurposeSeparates [] := by
  have haccepted : ∀ kind, Claims.Accepted kind [] := by
    intro kind
    cases kind with
    | standard => exact ⟨_, rfl⟩
    | provisioning => exact ⟨_, rfl⟩
    | client => exact ⟨_, rfl⟩
    | server => exact ⟨_, rfl⟩
  refine ⟨haccepted, fun h => ?_⟩
  have hstated := h.stated .server (by decide) (haccepted .server)
  exact absurd hstated (by simp [Members.get?])

end FleetToken
