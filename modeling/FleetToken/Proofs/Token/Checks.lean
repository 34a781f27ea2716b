import FleetToken.Proofs.Outcome
import FleetToken.Token.Verification

/-!
# The checks of a payload

Five members of a payload are checked one after the other: the times at which it was issued, from
which it is valid and until which it is valid, its subject and its identifier. Each check passes a
payload without the member. Only the check of the end reports an end that has been reached.

## Main results

* `checkReached_eq_ok_iff`, `checkUnexpired_eq_ok_iff`, `checkPayload_eq_ok_iff`: the payloads that
  pass.
* `checkUnexpired_eq_tokenExpired_iff`, `checkPayload_eq_tokenExpired_iff`: the payloads that have
  expired.
* `expired_or_invalid_of_checkPayload`: there are no other failures than invalid tokens.
-/

namespace FleetToken

variable {payload : Members} {clock : Clock} {claim : TimeClaim} {error : TokenError}

/-! ## Times -/

/-- A time that is no integer is refused as invalid. -/
theorem invalid_of_timeClaim (h : timeClaim payload claim = .error error) :
    error = .invalidToken (.notInteger claim) := by
  rw [timeClaim.eq_def] at h
  split at h
  · contradiction
  split at h
  · contradiction
  · exact (Except.error.inj h).symm

/-- A time has been reached if it is absent, or an integer that the clock is not before. -/
theorem checkReached_eq_ok_iff : checkReached payload clock claim = .ok () ↔
    ∀ value, payload.get? (Text.ofString claim.wire) = some value →
      ∃ n, timeInt? value = some n ∧ clock.isBefore n = false := by
  rw [checkReached, timeClaim]
  cases payload.get? (Text.ofString claim.wire) with
  | none => simp
  | some value =>
    cases htime : timeInt? value with
    | none => simp [htime]
    | some n => cases hbefore : clock.isBefore n <;> simp [htime, hbefore]

/-- A time that is not reached is refused as invalid. -/
theorem invalid_of_checkReached (h : checkReached payload clock claim = .error error) :
    ∃ fault, error = .invalidToken fault := by
  rcases bind_eq_error_iff.mp h with htime | ⟨found, -, hfound⟩
  · exact ⟨_, invalid_of_timeClaim htime⟩
  split at hfound
  · split at hfound
    · exact ⟨_, (Except.error.inj hfound).symm⟩
    · contradiction
  · contradiction

/-- A payload has not expired if its end is absent, or an integer that the clock is before. -/
theorem checkUnexpired_eq_ok_iff : checkUnexpired payload clock = .ok () ↔
    ∀ value, payload.get? (Text.ofString "exp") = some value →
      ∃ n, timeInt? value = some n ∧ clock.isBefore n = true := by
  rw [checkUnexpired, timeClaim, show TimeClaim.expiresAt.wire = "exp" from rfl]
  cases payload.get? (Text.ofString "exp") with
  | none => simp
  | some value =>
    cases htime : timeInt? value with
    | none => simp [htime]
    | some n => cases hbefore : clock.isBefore n <;> simp [htime, hbefore]

/-- A payload has expired if its end is an integer that the clock is not before. -/
theorem checkUnexpired_eq_tokenExpired_iff : checkUnexpired payload clock = .error .tokenExpired ↔
    ∃ value n, payload.get? (Text.ofString "exp") = some value
      ∧ timeInt? value = some n ∧ clock.isBefore n = false := by
  rw [checkUnexpired, timeClaim, show TimeClaim.expiresAt.wire = "exp" from rfl]
  cases payload.get? (Text.ofString "exp") with
  | none => simp
  | some value =>
    cases htime : timeInt? value with
    | none => simp [htime]
    | some n => cases hbefore : clock.isBefore n <;> simp [htime, hbefore]

/-- An end that has passed is refused as expired. -/
theorem expired_or_invalid_of_checkUnexpired (h : checkUnexpired payload clock = .error error) :
    error = .tokenExpired ∨ ∃ fault, error = .invalidToken fault := by
  rcases bind_eq_error_iff.mp h with htime | ⟨found, -, hfound⟩
  · exact .inr ⟨_, invalid_of_timeClaim htime⟩
  split at hfound
  · split at hfound
    · exact .inl (Except.error.inj hfound).symm
    · contradiction
  · contradiction

/-! ## Texts -/

/-- A claim that is no text is refused as invalid. -/
theorem invalid_of_checkText {name : String} {fault : InvalidTokenFault}
    (h : checkText payload name fault = .error error) : error = .invalidToken fault := by
  rw [checkText.eq_def] at h
  split at h
  · contradiction
  · contradiction
  · exact (Except.error.inj h).symm

/-! ## All checks -/

/-- A payload passes if its three times and two texts do. -/
theorem checkPayload_eq_ok_iff : checkPayload payload clock = .ok () ↔
    checkReached payload clock .issuedAt = .ok () ∧ checkReached payload clock .notBefore = .ok ()
      ∧ checkUnexpired payload clock = .ok () ∧ checkText payload "sub" .subjectNotText = .ok ()
      ∧ checkText payload "jti" .tokenIdNotText = .ok () := by
  simp only [checkPayload, bind_eq_ok_iff]
  constructor
  · rintro ⟨⟨⟩, hissued, ⟨⟩, hvalid, ⟨⟩, hunexpired, ⟨⟩, hsubject, htokenId⟩
    exact ⟨hissued, hvalid, hunexpired, hsubject, htokenId⟩
  · rintro ⟨hissued, hvalid, hunexpired, hsubject, htokenId⟩
    exact ⟨(), hissued, (), hvalid, (), hunexpired, (), hsubject, htokenId⟩

/-- The end is looked at after the two other times and before the texts. -/
theorem checkPayload_eq_tokenExpired_iff : checkPayload payload clock = .error .tokenExpired ↔
    checkReached payload clock .issuedAt = .ok () ∧ checkReached payload clock .notBefore = .ok ()
      ∧ checkUnexpired payload clock = .error .tokenExpired := by
  constructor
  · intro h
    -- The checks before the end and after it refuse a payload as invalid, never as expired.
    rcases bind_eq_error_iff.mp h with hissued | ⟨⟨⟩, hissued, h⟩
    · obtain ⟨fault, hfault⟩ := invalid_of_checkReached hissued
      contradiction
    rcases bind_eq_error_iff.mp h with hvalid | ⟨⟨⟩, hvalid, h⟩
    · obtain ⟨fault, hfault⟩ := invalid_of_checkReached hvalid
      contradiction
    rcases bind_eq_error_iff.mp h with hexpired | ⟨⟨⟩, -, h⟩
    · exact ⟨hissued, hvalid, hexpired⟩
    rcases bind_eq_error_iff.mp h with hsubject | ⟨⟨⟩, -, htokenId⟩
    · have hfault := invalid_of_checkText hsubject
      contradiction
    · have hfault := invalid_of_checkText htokenId
      contradiction
  · rintro ⟨hissued, hvalid, hexpired⟩
    rw [checkPayload, hissued, ok_bind, hvalid, ok_bind, hexpired, error_bind]

/-- A payload that does not pass is refused as expired or as invalid. -/
theorem expired_or_invalid_of_checkPayload (h : checkPayload payload clock = .error error) :
    error = .tokenExpired ∨ ∃ fault, error = .invalidToken fault := by
  rcases bind_eq_error_iff.mp h with hissued | ⟨⟨⟩, -, h⟩
  · exact .inr (invalid_of_checkReached hissued)
  rcases bind_eq_error_iff.mp h with hvalid | ⟨⟨⟩, -, h⟩
  · exact .inr (invalid_of_checkReached hvalid)
  rcases bind_eq_error_iff.mp h with hunexpired | ⟨⟨⟩, -, h⟩
  · exact expired_or_invalid_of_checkUnexpired hunexpired
  rcases bind_eq_error_iff.mp h with hsubject | ⟨⟨⟩, -, htokenId⟩
  · exact .inr ⟨_, invalid_of_checkText hsubject⟩
  · exact .inr ⟨_, invalid_of_checkText htokenId⟩

end FleetToken
