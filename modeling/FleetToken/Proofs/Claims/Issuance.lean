import FleetToken.Proofs.Claims.Building
import FleetToken.Proofs.Time.Timestamp
import FleetToken.Token.Signing

/-!
# Issued claims

Builders issue claims in the last whole second that the clock has shown, and claims are valid from
then on. How long they last is wished for or set. A wished span has to be positive, and is refused
otherwise. The span in the settings is taken as it is, so that claims which rely on it may end as
they are issued, or before; they are never signed.

## Main definitions

* `Timestamp.IsSecondOf`: the last whole second that a clock has shown.
* `BuildRequest.IsLasting`: the claims last for a positive span.

## Main results

* `BuildRequest.isLasting_iff_of_build`: when built claims end after they are issued.
-/

namespace FleetToken

/-- The date is the last whole second that a clock has shown, as an instant in UTC. -/
structure Timestamp.IsSecondOf (t : Timestamp) (clock : Clock) : Prop where
  /-- The date is an instant. -/
  offset : t.offset = some 0
  /-- It has no microseconds beyond its seconds. -/
  dvd : microsPerSecond ∣ t.wall
  /-- The clock has shown it. -/
  le : t.wall ≤ clock.micros
  /-- The clock has not shown the next second. -/
  lt : clock.micros < t.wall + microsPerSecond

/-- A clock cut to its second names that second. -/
theorem Clock.isSecondOf_wholeSecond (clock : Clock) : clock.wholeSecond.IsSecondOf clock where
  offset := rfl
  dvd := Int.dvd_mul_left _ _
  le := Int.ediv_mul_le clock.micros (show microsPerSecond ≠ 0 by decide)
  lt := by
    have hlt := Int.lt_ediv_add_one_mul_self clock.micros (show 0 < microsPerSecond by decide)
    rwa [Int.add_mul, Int.one_mul] at hlt

/-- The check of a lifetime compares the two dates. -/
theorem StandardClaims.checkLifetime_of_le? {c : StandardClaims} {issuedAt expiresAt : Timestamp}
    {ended : Bool} (hissued : c.issuedAt = some issuedAt) (hexpires : c.expiresAt = some expiresAt)
    (h : expiresAt.le? issuedAt = some ended) : c.checkLifetime =
      if ended then .error (.token (.invalidClaims .emptyLifetime)) else .ok () := by
  rw [checkLifetime, hexpires, hissued]
  simp only [h]
  cases ended <;> rfl

namespace BuildRequest

/-- A span is wished for, or the settings have a positive one. -/
def IsLasting (settings : Settings) (r : BuildRequest) : Prop :=
  r.validity.isSome ∨ 0 < settings.defaultValidity

variable {s : Surroundings} {r : BuildRequest}

/-- The dates of an envelope that a call takes. -/
theorem exists_dates_of_envelope {envelope : StandardClaims} (h : r.envelope s = .ok envelope) :
    ∃ settings span expiresAt, s.settings = .ok settings
      ∧ settings.validity r.validity = .ok span
      ∧ s.clock.wholeSecond.add? span = some expiresAt
      ∧ envelope.issuedAt = some s.clock.wholeSecond
      ∧ envelope.notBefore = some s.clock.wholeSecond
      ∧ envelope.expiresAt = some expiresAt := by
  obtain ⟨issuer, subjectIsPurpose, henvelope⟩ := exists_envelope_eq s r
  rw [henvelope] at h
  obtain ⟨settings, span, expiresAt, hsettings, -, hspan, hexpires, rfl⟩ :=
    StandardClaims.build_eq_ok_iff.mp h
  exact ⟨settings, span, expiresAt, hsettings, hspan, hexpires, rfl, rfl, rfl⟩

/-- The claims have the dates of their envelope. -/
theorem dates_claims (r : BuildRequest) (envelope : StandardClaims) :
    (r.claims envelope).envelope.issuedAt = envelope.issuedAt
      ∧ (r.claims envelope).envelope.notBefore = envelope.notBefore
      ∧ (r.claims envelope).envelope.expiresAt = envelope.expiresAt := by
  cases r <;> exact ⟨rfl, rfl, rfl⟩

/-- Built claims are issued, and valid from, the last whole second of the clock. They end after
they are issued if and only if they are lasting, and otherwise they are refused when they are to be
signed. -/
theorem isLasting_iff_of_build (s : Surroundings) (r : BuildRequest) (c : Claims)
    (h : r.build s = .ok c) : ∃ settings issuedAt expiresAt, s.settings = .ok settings
      ∧ issuedAt.IsSecondOf s.clock ∧ c.envelope.issuedAt = some issuedAt
      ∧ c.envelope.notBefore = some issuedAt ∧ c.envelope.expiresAt = some expiresAt
      ∧ expiresAt.offset = some 0
      ∧ (issuedAt.wall < expiresAt.wall ↔ r.IsLasting settings)
      ∧ (r.IsLasting settings → c.envelope.checkLifetime = .ok ())
      ∧ (¬r.IsLasting settings →
        c.envelope.checkLifetime = .error (.token (.invalidClaims .emptyLifetime))) := by
  obtain ⟨-, -, envelope, henvelope, rfl⟩ := build_eq_ok_iff.mp h
  obtain ⟨settings, span, expiresAt, hsettings, hspan, hadd, hissued, hvalid, hexpires⟩ :=
    exists_dates_of_envelope henvelope
  obtain ⟨hissuedAt, hnotBefore, hexpiresAt⟩ := r.dates_claims envelope
  -- The two dates are apart by the span, so that its sign decides.
  have hlasting := Settings.micros_pos_iff_of_validity hspan
  have hcheck := StandardClaims.checkLifetime_of_le? (hissuedAt.trans hissued)
    (hexpiresAt.trans hexpires) (Timestamp.le?_of_add? hadd)
  refine ⟨settings, s.clock.wholeSecond, expiresAt, hsettings, s.clock.isSecondOf_wholeSecond,
    hissuedAt.trans hissued, hnotBefore.trans hvalid, hexpiresAt.trans hexpires, ?_,
    (Timestamp.wall_lt_iff_of_add? hadd).trans hlasting, fun hlasts => ?_, fun hends => ?_⟩
  · rw [Timestamp.offset, Timestamp.clock_of_add? hadd]
    rfl
  · rw [hcheck, decide_eq_false (Int.not_le.mpr (hlasting.mpr hlasts))]
    rfl
  · rw [hcheck, decide_eq_true (Int.not_lt.mp (mt hlasting.mp hends))]
    rfl

/-- Surroundings in which the clock shows half a second past the first second of 1970. -/
def sampleSurroundings (environment : Environment) : Surroundings :=
  ⟨.mk 1500000, [], environment⟩

/-- A call for the envelope of a server's claims, without a wish for a span. -/
def sampleRequest : BuildRequest :=
  .standard [] .server none false

/-- Without variables the claims of this call last for an hour. -/
theorem isLasting_sampleRequest : ∃ c, sampleRequest.build (sampleSurroundings []) = .ok c
    ∧ c.envelope.issuedAt = some (.ofSeconds 1) ∧ c.envelope.checkLifetime = .ok () := by
  have hbuild : sampleRequest.build (sampleSurroundings []) = .ok (.standard {
      purpose := .server
      issuer := Text.ofString "Choria"
      issuedAt := some (.ofSeconds 1)
      notBefore := some (.ofSeconds 1)
      expiresAt := some (.ofSeconds 3601)
      tokenId := some [] }) := by rfl
  obtain ⟨settings, -, -, hsettings, -, -, -, -, -, -, hlasts, -⟩ :=
    isLasting_iff_of_build _ _ _ hbuild
  refine ⟨_, hbuild, rfl, hlasts (.inr ?_)⟩
  obtain rfl := Except.ok.inj hsettings
  decide

/-- Not all built claims last: where the settings have a validity of zero seconds, the claims of
this call end as they are issued. -/
theorem not_isLasting_zeroValidity : ∃ s c, sampleRequest.build s = .ok c
    ∧ c.envelope.issuedAt = some (.ofSeconds 1) ∧ c.envelope.expiresAt = some (.ofSeconds 1)
    ∧ c.envelope.checkLifetime = .error (.token (.invalidClaims .emptyLifetime)) := by
  refine ⟨sampleSurroundings [(Text.ofString "CHORIA_TOKENS_DEFAULT_VALIDITY", Text.ofString "0")],
    .standard {
      purpose := .server
      issuer := Text.ofString "Choria"
      issuedAt := some (.ofSeconds 1)
      notBefore := some (.ofSeconds 1)
      expiresAt := some (.ofSeconds 1)
      tokenId := some [] }, ?_, rfl, rfl, rfl⟩
  rfl

end BuildRequest

end FleetToken
