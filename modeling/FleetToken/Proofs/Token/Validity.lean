import FleetToken.Proofs.Time.Seconds
import FleetToken.Proofs.Token.Checks
import FleetToken.Proofs.Token.Request
import FleetToken.Proofs.Token.Signed

/-!
# Validity over time

A token is valid during one stretch of time, and its expiry is final. Of the steps of a request only
two kinds look at the clock: the times that must have been reached stay reached at later clocks, and
the end that must lie ahead stays reached once it is. All other steps go the same way at every time.

## Main results

* `checkPayload_eq_tokenExpired_of_le`: a payload that has expired stays so.
* `checkPayload_of_le`: a payload that passes can only expire.
* `Request.answer_later`: what the answer to a request can be later on.
-/

namespace FleetToken

/-! ## Later clocks -/

section Later

variable {payload : Members} {clock later : Clock} {claim : TimeClaim}
  (hle : clock.micros ≤ later.micros)
include hle

/-- A time that is reached stays reached. -/
theorem Clock.isBefore_eq_false_of_le {n : Int} (h : clock.isBefore n = false) :
    later.isBefore n = false := by
  rw [Bool.eq_false_iff] at h ⊢
  intro hbefore
  exact h (Clock.isBefore_of_le hle hbefore)

/-- A time that has been reached stays so. -/
theorem checkReached_of_le (h : checkReached payload clock claim = .ok ()) :
    checkReached payload later claim = .ok () := by
  rw [checkReached_eq_ok_iff] at h ⊢
  intro value hvalue
  obtain ⟨n, htime, hreached⟩ := h value hvalue
  exact ⟨n, htime, Clock.isBefore_eq_false_of_le hle hreached⟩

/-- An end that has been reached stays so. -/
theorem checkUnexpired_eq_tokenExpired_of_le
    (h : checkUnexpired payload clock = .error .tokenExpired) :
    checkUnexpired payload later = .error .tokenExpired := by
  rw [checkUnexpired_eq_tokenExpired_iff] at h ⊢
  obtain ⟨value, n, hvalue, htime, hreached⟩ := h
  exact ⟨value, n, hvalue, htime, Clock.isBefore_eq_false_of_le hle hreached⟩

omit hle in
/-- An end that lies ahead still does so later, or else it has been reached. -/
theorem checkUnexpired_of_checkUnexpired (h : checkUnexpired payload clock = .ok ()) :
    checkUnexpired payload later = .ok ()
      ∨ checkUnexpired payload later = .error .tokenExpired := by
  rw [checkUnexpired_eq_ok_iff] at h
  rw [checkUnexpired_eq_ok_iff, checkUnexpired_eq_tokenExpired_iff]
  by_cases hahead : ∀ value n, payload.get? (Text.ofString "exp") = some value →
      timeInt? value = some n → later.isBefore n = true
  · left
    intro value hvalue
    obtain ⟨n, htime, -⟩ := h value hvalue
    exact ⟨n, htime, hahead value n hvalue htime⟩
  · right
    simpa using hahead

/-- A payload that has expired stays so. -/
theorem checkPayload_eq_tokenExpired_of_le
    (h : checkPayload payload clock = .error .tokenExpired) :
    checkPayload payload later = .error .tokenExpired := by
  rw [checkPayload_eq_tokenExpired_iff] at h ⊢
  obtain ⟨hissued, hvalid, hexpired⟩ := h
  exact ⟨checkReached_of_le hle hissued, checkReached_of_le hle hvalid,
    checkUnexpired_eq_tokenExpired_of_le hle hexpired⟩

/-- A payload that passes does so later, or else it has expired. -/
theorem checkPayload_of_le (h : checkPayload payload clock = .ok ()) :
    checkPayload payload later = .ok () ∨ checkPayload payload later = .error .tokenExpired := by
  obtain ⟨hissued, hvalid, hunexpired, hsubject, htokenId⟩ := checkPayload_eq_ok_iff.mp h
  have hissuedLater := checkReached_of_le hle hissued
  have hvalidLater := checkReached_of_le hle hvalid
  rcases checkUnexpired_of_checkUnexpired hunexpired with hahead | hexpired
  · exact .inl (checkPayload_eq_ok_iff.mpr ⟨hissuedLater, hvalidLater, hahead, hsubject, htokenId⟩)
  · exact .inr (checkPayload_eq_tokenExpired_iff.mpr ⟨hissuedLater, hvalidLater, hexpired⟩)

end Later

/-! ## Answers over time -/

namespace Request

section Later

variable {request : Request} {token : TokenInput} {key : KeyArgument}

/-- A token is reported as expired if it is authentic and its payload has expired, whatever is
wanted of it. -/
theorem answer_eq_tokenExpired_iff {clock : Clock} :
    request.answer token key clock = .error (.token .tokenExpired) ↔
      ∃ members, authenticatedPayload token key = .ok members
        ∧ checkPayload members clock = .error .tokenExpired := by
  rw [answer_eq]
  constructor
  · intro h
    rcases bind_eq_error_iff.mp h with hauthentic | ⟨members, hauthentic, h⟩
    -- An authentication that fails says nothing about expiry.
    · exact absurd trivial (not_revealsPayload_of_authenticatedPayload hauthentic)
    rcases bind_eq_error_iff.mp h with hchecked | ⟨-, -, hfound⟩
    · obtain ⟨error, hexpired, herror⟩ := mapError_eq_error_iff.mp hchecked
      obtain rfl := Failure.token.inj herror
      exact ⟨members, hauthentic, hexpired⟩
    -- Neither does the decoding of the claims.
    · obtain ⟨fault, hfault⟩ := invalidClaims_of_ofPayload hfound
      exact absurd (Failure.token.inj hfault) (by simp)
  · rintro ⟨members, hauthentic, hexpired⟩
    rw [hauthentic, ok_bind, hexpired, mapError_error, error_bind]

variable {clock later : Clock} (hle : clock.micros ≤ later.micros)
include hle

/-- Expiry is final. -/
theorem answer_eq_tokenExpired_of_le
    (h : request.answer token key clock = .error (.token .tokenExpired)) :
    request.answer token key later = .error (.token .tokenExpired) := by
  obtain ⟨members, hauthentic, hexpired⟩ := answer_eq_tokenExpired_iff.mp h
  exact answer_eq_tokenExpired_iff.mpr
    ⟨members, hauthentic, checkPayload_eq_tokenExpired_of_le hle hexpired⟩

/-- What is found in a token is found in it until it expires. -/
theorem answer_of_le {found : Answer} (h : request.answer token key clock = .ok found) :
    request.answer token key later = .ok found
      ∨ request.answer token key later = .error (.token .tokenExpired) := by
  obtain ⟨members, hauthentic, hchecked, hfound⟩ := answer_eq_ok_iff.mp h
  rcases checkPayload_of_le hle hchecked with hlive | hexpired
  · exact .inl (answer_eq_ok_iff.mpr ⟨members, hauthentic, hlive, hfound⟩)
  · exact .inr (answer_eq_tokenExpired_iff.mpr ⟨members, hauthentic, hexpired⟩)

end Later

/-- Validity is one stretch of time and expiry is final. A token that has expired stays so. What is
found in a token is found in it at every later time, or it has expired by then; so what is found at
two times is found at all times between them. This holds of every token, under every key, at all
times that a clock can show and whatever is wanted, also if the times in the payload are no
numbers. -/
theorem answer_later (request : Request) (token : TokenInput) (key : KeyArgument)
    (clock later : Clock) (hle : clock.micros ≤ later.micros) :
    (request.answer token key clock = .error (.token .tokenExpired) →
      request.answer token key later = .error (.token .tokenExpired))
    ∧ (∀ found, request.answer token key clock = .ok found →
      request.answer token key later = .ok found
        ∨ request.answer token key later = .error (.token .tokenExpired))
    ∧ (∀ between : Clock, clock.micros ≤ between.micros → between.micros ≤ later.micros →
      ∀ found other, request.answer token key clock = .ok found →
        request.answer token key later = .ok other →
        request.answer token key between = .ok found) := by
  refine ⟨answer_eq_tokenExpired_of_le hle, ?_, ?_⟩
  · intro found hfound
    exact answer_of_le hle hfound
  intro between hfirst hlast found other hfound hother
  rcases answer_of_le hfirst hfound with hlive | hexpired
  · exact hlive
  -- A token that had expired in between would not be right at the end.
  · rw [answer_eq_tokenExpired_of_le hlast hexpired] at hother
    contradiction

/-- A token that ends after one minute is right before, has expired after the minute, and still has
after another one. -/
theorem exists_answers_mersennePair : (Clock.mk 60000000).micros ≤ (Clock.mk 120000000).micros
    ∧ ∃ token members, payload.answer (.text token) mersennePair.publicArgument (.mk 0)
        = .ok (.payload members)
      ∧ payload.answer (.text token) mersennePair.publicArgument (.mk 60000000)
        = .error (.token .tokenExpired)
      ∧ payload.answer (.text token) mersennePair.publicArgument (.mk 120000000)
        = .error (.token .tokenExpired) := by
  have hle : (Clock.mk 60000000).micros ≤ (Clock.mk 120000000).micros := by decide
  have hpayload := Json.lossless_singleton "exp"
    (Json.lossless_int (show (60 : Int).natAbs < 10 ^ 20 by decide))
  have hlive : checkPayload [(Text.ofString "exp", .int 60)] (.mk 0) = .ok () := by decide +kernel
  have hexpired : checkPayload [(Text.ofString "exp", .int 60)] (.mk 60000000)
      = .error .tokenExpired := by decide +kernel
  obtain ⟨token, hverified⟩ := exists_verified_mersennePair hpayload.isWritable
    (Json.decode_compact hpayload) (.mk 0) hlive
  have hauthentic := (verifiedPayload_eq_ok_iff.mp hverified).1
  have hfirst : payload.answer (.text token) mersennePair.publicArgument (.mk 60000000)
      = .error (.token .tokenExpired) :=
    answer_eq_tokenExpired_iff.mpr ⟨_, hauthentic, hexpired⟩
  exact ⟨hle, token, _, answer_eq_ok_iff.mpr ⟨_, hauthentic, hlive, rfl⟩, hfirst,
    (answer_later payload (.text token) mersennePair.publicArgument (.mk 60000000) (.mk 120000000)
      hle).1 hfirst⟩

end Request

end FleetToken
