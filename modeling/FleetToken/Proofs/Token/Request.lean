import FleetToken.Proofs.Claims.TwoPhases
import FleetToken.Proofs.Token.Soundness

/-!
# Requests to verification

A token is verified for the sake of its payload, of claims of a wanted kind, or of claims of
whatever kind belongs to its purpose. All three go the same way: the payload is authenticated
without a clock, then the clock is looked at, and last the payload is decoded without a key and
without a clock.

## Main definitions

* `Request`, `Request.answer`: what can be wanted of a token, and the outcome.
* `Request.ofPayload`: what is done with a payload that is right.

## Main results

* `Request.answer_eq`: every request is made in the same three steps.
* `Request.answer_eq_ok_iff`, `Request.answer_eq_error_iff`: the outcome by the steps.
-/

namespace FleetToken

/-- What is wanted of a token. -/
inductive Request where
  /-- The members of its payload. -/
  | payload
  /-- Claims of one kind. -/
  | claims (kind : ClaimsType)
  /-- Claims of the kind that belongs to its purpose. -/
  | anyClaims

/-- What is found in a token. -/
inductive Answer where
  | payload (members : Members)
  | claims (claims : Claims)

namespace Request

/-- The outcome of a request for a token under a key at the time that a clock shows. -/
def answer (request : Request) (token : TokenInput) (key : KeyArgument) (clock : Clock) :
    Except Failure Answer :=
  match request with
  | .payload => (verifiedPayload token key clock).map .payload
  | .claims kind => (parseToken token key clock kind).map .claims
  | .anyClaims => (parseAnyToken token key clock).map .claims

/-- What a request finds in a payload that is right. -/
def ofPayload (request : Request) (members : Members) : Except Failure Answer :=
  match request with
  | .payload => .ok (.payload members)
  | .claims kind => (Claims.decodeAs kind (.object members)).map .claims
  | .anyClaims => (Claims.decode (.object members)).map .claims

section Answer

variable (request : Request) (token : TokenInput) (key : KeyArgument) (clock : Clock)

/-- Verification comes first, and does not know what is wanted. -/
theorem answer_eq_bind :
    request.answer token key clock = verifiedPayload token key clock >>= request.ofPayload := by
  cases request with
  | payload => rw [answer]; cases verifiedPayload token key clock <;> rfl
  | claims kind => rw [answer, parseToken]; cases verifiedPayload token key clock <;> rfl
  | anyClaims => rw [answer, parseAnyToken]; cases verifiedPayload token key clock <;> rfl

/-- Every request is made in three steps, only the second of which looks at the clock, and only the
last of which knows what is wanted. -/
theorem answer_eq : request.answer token key clock = (do
      let members ← authenticatedPayload token key
      (checkPayload members clock).mapError .token
      request.ofPayload members) := by
  rw [answer_eq_bind, verifiedPayload_eq]
  simp only [bind_assoc, pure_bind]

variable {request token key clock}

/-- A request is answered if the payload is authentic, the time allows it, and it is what is
wanted. -/
theorem answer_eq_ok_iff {found : Answer} : request.answer token key clock = .ok found ↔
    ∃ members, authenticatedPayload token key = .ok members
      ∧ checkPayload members clock = .ok () ∧ request.ofPayload members = .ok found := by
  rw [answer_eq]
  simp only [bind_eq_ok_iff, mapError_eq_ok_iff]
  constructor
  · rintro ⟨members, hauthentic, ⟨⟩, hchecked, hfound⟩
    exact ⟨members, hauthentic, hchecked, hfound⟩
  · rintro ⟨members, hauthentic, hchecked, hfound⟩
    exact ⟨members, hauthentic, (), hchecked, hfound⟩

/-- Without an authentic payload every request fails in the same way. -/
theorem answer_eq_error {failure : Failure} (h : authenticatedPayload token key = .error failure) :
    request.answer token key clock = .error failure := by
  rw [answer_eq, h, error_bind]

/-! ## Reports on the claims -/

/-- The decoding of a payload fails only with a report on the claims. -/
theorem invalidClaims_of_ofPayload {members : Members} {failure : Failure}
    (h : request.ofPayload members = .error failure) :
    ∃ fault, failure = .token (.invalidClaims fault) := by
  -- With enough room the stack is not exhausted.
  have hroom : Claims.hasRoom (.object members) .unlimited = true := Claims.hasRoom_unlimited _
  cases request with
  | payload => contradiction
  | claims kind =>
    replace h : Claims.decodeAs kind (.object members) = .error failure := map_eq_error_iff.mp h
    rcases Claims.invalidClaims_of_decodeAs h with hfault | rfl
    · exact hfault
    · simp [Claims.decodeAs_eq_error_stackExhausted_iff.mp h] at hroom
  | anyClaims =>
    replace h : Claims.decode (.object members) = .error failure := map_eq_error_iff.mp h
    rcases Claims.invalidClaims_of_decode h with hfault | rfl
    · exact hfault
    · simp [Claims.decode_eq_error_stackExhausted_iff.mp h] at hroom

end Answer

end Request

end FleetToken
