import FleetToken.Proofs.Claims.Issuance
import FleetToken.Proofs.Claims.Reading
import FleetToken.Proofs.Time.Reader
import FleetToken.Proofs.Token.Signed

/-!
# Failures of signing

What goes wrong with a signature should be an error of tokens. A key that is none, a half of the
wrong kind, a payload that cannot be written: all of this is reported as such. The one oversight is
the check of the lifetime, for it compares two dates that may be of different kinds. Claims that are
built, or read from numbers, have dates of one kind.

## Main definitions

* `StandardClaims.MixesDates`: an instant and a naive reading are to be compared.
* `KeyArgument.HasPrivateHalf`: there is a key to sign with.

## Main results

* `Claims.sign_contained_iff`: the claims and keys whose signing is contained.
* `BuildRequest.contained_sign_of_build`: built claims are among them.
* `Claims.contained_sign_of_numbers`: and claims whose dates are numbers.
-/

namespace FleetToken

/-! ## The check of the lifetime -/

/-- The claims have a time of issue and an end, and only one of the two has an offset from UTC. -/
def StandardClaims.MixesDates (c : StandardClaims) : Prop :=
  ∃ issuedAt expiresAt, c.issuedAt = some issuedAt ∧ c.expiresAt = some expiresAt
    ∧ issuedAt.offset.isSome ≠ expiresAt.offset.isSome

/-- An instant and a naive reading cannot be compared. -/
theorem Timestamp.le?_eq_none_iff {a b : Timestamp} :
    a.le? b = none ↔ b.offset.isSome ≠ a.offset.isSome := by
  -- Readings of one clock are both naive, or both have an offset.
  have hsame : a.clock.isSame b.clock = true → a.offset.isSome = b.offset.isSome := by
    rw [offset, offset]
    cases a.clock <;> cases b.clock <;> simp [WallClock.isSame, WallClock.offset?]
  -- And two naive readings are readings of one clock.
  have hnaive : a.offset = none → b.offset = none → a.clock.isSame b.clock = true := by
    rw [offset, offset]
    cases a.clock <;> cases b.clock <;> simp [WallClock.isSame, WallClock.offset?]
  rw [le?, instant?, instant?]
  split
  · rename_i h
    simp [hsame h]
  · rename_i h
    cases ha : a.offset with
    | none =>
      cases hb : b.offset with
      | none => exact absurd (hnaive ha hb) h
      | some offset => simp
    | some offset =>
      cases hb : b.offset with
      | none => simp
      | some other => simp

/-- Dates of which one has a zone and one has none are not compared. -/
theorem StandardClaims.checkLifetime_of_mixesDates {c : StandardClaims} (h : c.MixesDates) :
    c.checkLifetime = .error .incomparableDates := by
  obtain ⟨issuedAt, expiresAt, hissued, hexpires, hmixed⟩ := h
  simp only [checkLifetime, hissued, hexpires, Timestamp.le?_eq_none_iff.mpr hmixed]

/-- A lifetime is checked without a fault unless the dates are mixed so. -/
theorem StandardClaims.contained_checkLifetime_iff {c : StandardClaims} :
    Contained c.checkLifetime ↔ ¬c.MixesDates := by
  refine ⟨fun h hmixed => ?_, fun h => ?_⟩
  · rw [checkLifetime_of_mixesDates hmixed] at h
    exact Bool.false_ne_true h
  · rw [checkLifetime]
    split
    · rename_i expiresAt issuedAt hexpires hissued
      split
      · rename_i hnone
        exact absurd ⟨issuedAt, expiresAt, hissued, hexpires, Timestamp.le?_eq_none_iff.mp hnone⟩ h
      · rfl
      · trivial
    · trivial

/-! ## Signing -/

/-- What is handed in as a key gives a pair with a private half. -/
def KeyArgument.HasPrivateHalf (key : KeyArgument) : Prop :=
  ∃ pair, KeyPair.ofArgument key = .ok pair ∧ pair.privateKey.isSome = true

namespace Claims

variable {c : Claims} {key : KeyArgument} {zone : LocalZone}

/-- With a private half, signing claims with mixed dates fails. -/
theorem sign_of_mixesDates (hkey : key.HasPrivateHalf) (hdates : c.envelope.MixesDates) :
    c.sign key zone = .error .incomparableDates := by
  obtain ⟨pair, hpair, hsome⟩ := hkey
  obtain ⟨privateKey, hprivate⟩ := Option.isSome_iff_exists.mp hsome
  rw [sign, hpair, mapError_ok, ok_bind]
  simp only [hprivate, StandardClaims.checkLifetime_of_mixesDates hdates, error_bind]

/-- Claims without mixed dates are signed, or refused with a token error. -/
theorem contained_sign_of_not_mixesDates (hdates : ¬c.envelope.MixesDates) :
    Contained (c.sign key zone) := by
  rw [sign]
  refine contained_bind_iff.mpr ⟨contained_mapError_token _, fun pair _ => ?_⟩
  split
  · rfl
  · refine contained_bind_iff.mpr ⟨StandardClaims.contained_checkLifetime_iff.mpr hdates, ?_⟩
    rintro - -
    exact contained_mapError ..

/-- Without a private half they are refused before their dates are compared. -/
theorem contained_sign_of_not_hasPrivateHalf (hkey : ¬key.HasPrivateHalf) :
    Contained (c.sign key zone) := by
  rw [sign]
  refine contained_bind_iff.mpr ⟨contained_mapError_token _, fun pair hpair => ?_⟩
  split
  · rfl
  · rename_i privateKey hprivate
    refine absurd ⟨pair, mapError_eq_ok_iff.mp hpair, ?_⟩ hkey
    rw [hprivate, Option.isSome_some]

/-- Signing is contained for all claims and keys, but for claims that mix dates of two kinds and a
key with a private half. The comparison of the dates is what fails then. -/
theorem sign_contained_iff (c : Claims) (key : KeyArgument) (zone : LocalZone) :
    (Contained (c.sign key zone) ↔ ¬(key.HasPrivateHalf ∧ c.envelope.MixesDates))
    ∧ (¬Contained (c.sign key zone) → c.sign key zone = .error .incomparableDates) := by
  by_cases hkey : key.HasPrivateHalf
  · by_cases hdates : c.envelope.MixesDates
    · have hfails : c.sign key zone = _ := sign_of_mixesDates hkey hdates
      rw [hfails]
      simp [hkey, hdates, Failure.isTokenError]
    · have hcontained : Contained (c.sign key zone) := contained_sign_of_not_mixesDates hdates
      simp [hcontained, hdates]
  · have hcontained : Contained (c.sign key zone) := contained_sign_of_not_hasPrivateHalf hkey
    simp [hcontained, hkey]

/-- A payload with a number for the end and a date without an offset for the time of issue. -/
def mixedPayload : Members :=
  [(Text.ofString "exp", .int 1700000000),
    (Text.ofString "iat", .string (Text.ofString "2024-01-01"))]

/-- The claims that are read from it. -/
def mixedClaims : Claims :=
  .standard {
    issuedAt := some { wall := 1704067200000000, clock := .naive }
    expiresAt := some (.ofSeconds 1700000000) }

/-- Signing is not contained for these claims. -/
theorem not_contained_sign : validate .standard (.object mixedPayload) = .ok mixedClaims
    ∧ ¬Contained (mixedClaims.sign (.pair mersennePair)) := by
  refine ⟨by rfl, fun hcontained => ?_⟩
  have hdates : mixedClaims.envelope.MixesDates := ⟨_, _, rfl, rfl, by decide⟩
  rw [sign_of_mixesDates ⟨mersennePair, rfl, rfl⟩ hdates] at hcontained
  exact Bool.false_ne_true hcontained

/-! ## Claims with dates of one kind -/

/-- Claims that are read from numbers are signed, or refused with an error of tokens. -/
theorem contained_sign_of_numbers {kind : ClaimsType} {payload : Members}
    (h : ofMembers kind payload = .ok c) (hnumbers : ∀ name ∈ [FieldName.issuedAt, .expiresAt],
      ∀ value, Reading.member? payload name = some value → value = .null ∨ value.number?.isSome)
    (key : KeyArgument) (zone : LocalZone) : Contained (c.sign key zone) := by
  -- The date of a number has an offset.
  have hoffset {name : FieldName} (hname : name ∈ [FieldName.issuedAt, .expiresAt]) {value : Json}
      (hvalue : Reading.member? payload name = some value) {date : Timestamp}
      (hdate : Timestamp.ofJson value = .ok date) : date.offset.isSome = true := by
    rcases hnumbers name hname value hvalue with rfl | hnumber
    · contradiction
    · obtain ⟨⟨num, den⟩, hnumber⟩ := Option.isSome_iff_exists.mp hnumber
      rw [Timestamp.offset, (Timestamp.utc_of_ofJson hnumber hdate).1]
      rfl
  refine contained_sign_of_not_mixesDates ?_
  rintro ⟨issuedAt, expiresAt, hissued, hexpires, hmixed⟩
  obtain ⟨issued, hissuedMember, hissuedDate⟩ := (issuedAt_eq_some_iff h).mp hissued
  obtain ⟨expiry, hexpiryMember, hexpiryDate⟩ := (expiresAt_eq_some_iff h).mp hexpires
  exact hmixed ((hoffset (by simp) hissuedMember hissuedDate).trans
    (hoffset (by simp) hexpiryMember hexpiryDate).symm)

end Claims

/-- Built claims are signed, or refused with an error of tokens. -/
theorem BuildRequest.contained_sign_of_build {s : Surroundings} {r : BuildRequest} {c : Claims}
    (h : r.build s = .ok c) (key : KeyArgument) (zone : LocalZone) :
    Contained (c.sign key zone) := by
  obtain ⟨-, -, envelope, henvelope, rfl⟩ := build_eq_ok_iff.mp h
  obtain ⟨_, span, _, -, -, hadd, hissued, -, hexpires⟩ := exists_dates_of_envelope henvelope
  obtain ⟨hissuedAt, -, hexpiresAt⟩ := r.dates_claims envelope
  refine Claims.contained_sign_of_not_mixesDates ?_
  rintro ⟨issuedAt, expiresAt, hfirst, hlast, hmixed⟩
  obtain rfl := Option.some.inj (hissued.symm.trans (hissuedAt.symm.trans hfirst))
  obtain rfl := Option.some.inj (hexpires.symm.trans (hexpiresAt.symm.trans hlast))
  exact hmixed (congrArg (fun clock => clock.offset?.isSome) (Timestamp.clock_of_add? hadd).symm)

end FleetToken
