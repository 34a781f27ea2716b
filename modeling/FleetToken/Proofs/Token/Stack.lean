import FleetToken.Connection
import FleetToken.Proofs.Claims.TwoPhases
import FleetToken.Proofs.Json.RoundTrip
import FleetToken.Proofs.Token.Authenticity
import FleetToken.Proofs.Token.Inspectable

/-!
# Tokens on a limited stack

Verification and inspection read documents and look up purposes, which takes room on the stack. With
little room they come to the same outcome as with enough of it, or else the stack is exhausted. So
what holds of every outcome with enough room holds of every outcome that does not end with the
stack, and what is left to say is when this happens.

## Main definitions

* `TokenInput.HeaderExceeds`: a token whose header is nested too deeply.

## Main results

* `CompactToken.ofInput_eqUnless`, `authenticatedPayload_eqUnless`, `parseToken_eqUnless`,
  `parseAnyToken_eqUnless`: verification with little room.
* `InspectedToken.ofInput_eqUnless`, `TokenInput.purpose_eqUnless`,
  `TokenInput.signingAlgorithm_eqUnless`, `Connection.ofToken_eqUnless`: inspection with little
  room.
* `CompactToken.ofInput_eq_stackExhausted_iff`, `CompactToken.authenticate_eq_stackExhausted_iff`:
  where the stack is exhausted in verification.
* `CompactToken.ofInput_bracketToken`: no room is enough for every token.
-/

namespace FleetToken

/-! ## Claims -/

namespace Claims

/-- Claims are decoded with little room as they are with enough. -/
theorem decodeAs_eqUnless (kind : ClaimsType) (payload : Json) (room : Room) :
    EqUnless .stackExhausted (decodeAs kind payload room) (decodeAs kind payload) := by
  cases hroom : hasRoom payload room with
  | false => exact .inl (decodeAs_eq_error_stackExhausted_iff.mpr hroom)
  | true => exact .inr (decodeAs_eq_of_hasRoom hroom kind)

/-- A payload is decoded as in enough room, unless the stack ends. -/
theorem decode_eqUnless (payload : Json) (room : Room) :
    EqUnless .stackExhausted (decode payload room) (decode payload) := by
  refine (decodeAs_eqUnless .standard payload room).bind fun envelope => ?_
  split
  · exact decodeAs_eqUnless _ payload room
  · exact .refl _ _

end Claims

/-! ## Verification -/

namespace CompactToken

/-- A token is taken apart as in enough room, unless the stack ends. -/
theorem ofBytes_eqUnless (bytes : Bytes) (room : Room) :
    EqUnless .stackExhausted (ofBytes bytes room) (ofBytes bytes) := by
  rw [ofBytes, ofBytes]
  cases segments? bytes with
  | none => exact .refl _ _
  | some segments =>
    -- The header is the only document that is read here.
    refine (EqUnless.refl _ _).bind fun document => ?_
    exact (Json.readObject_eqUnless document room _ _).bind fun header => .refl _ _

/-- A token is read with little room as it is with enough. -/
theorem ofInput_eqUnless (token : TokenInput) (room : Room) :
    EqUnless .stackExhausted (ofInput token room) (ofInput token) := by
  cases token with
  | text t =>
    rw [ofInput, ofInput]
    cases t.encodeUtf8? with
    | none => exact .refl _ _
    | some bytes => exact ofBytes_eqUnless bytes room
  | bytes bytes => exact ofBytes_eqUnless bytes room
  | other => exact .refl _ _

/-- A token is authenticated as in enough room, unless the stack ends. -/
theorem authenticate_eqUnless (token : CompactToken) (key : PublicKey) (method : SigningMethod)
    (room : Room) : EqUnless .stackExhausted (token.authenticate key method room)
      (token.authenticate key method) := by
  rw [authenticate, authenticate]
  split
  · exact .refl _ _
  · refine (EqUnless.refl _ _).bind fun accepted => ?_
    cases accepted with
    | true => exact Json.readObject_eqUnless token.payload room _ _
    | false => exact .refl _ _

/-- Authentication exhausts the stack if the signature is right and the payload is nested too
deeply. -/
theorem authenticate_eq_stackExhausted_iff {token : CompactToken} {key : PublicKey}
    {method : SigningMethod} {room : Room} :
    token.authenticate key method room = .error .stackExhausted ↔ isDetached token.header = false
      ∧ method.Accepts key token.signingInput token.signature
      ∧ Json.decode token.payload room = .error .tooDeep := by
  rw [authenticate]
  cases hdetached : isDetached token.header with
  | true =>
    simp only [↓reduceIte, Bool.true_eq_false, false_and, iff_false]
    split
    · simp
    · simp
  | false =>
    simp only [Bool.false_eq_true, ↓reduceIte, true_and, bind_eq_error_iff,
      ← PublicKey.verify_eq_ok_true_iff]
    constructor
    · rintro (hverify | ⟨accepted, hverify, hpayload⟩)
      · rcases PublicKey.failure_of_verify hverify with hfailure | hfailure
        · contradiction
        · contradiction
      cases accepted with
      | true => exact ⟨hverify, Json.readObject_eq_stackExhausted_iff.mp hpayload⟩
      | false => simp at hpayload
    · rintro ⟨hverify, hpayload⟩
      exact .inr ⟨true, hverify, Json.readObject_eq_stackExhausted_iff.mpr hpayload⟩

end CompactToken

/-- A payload is authenticated with little room as it is with enough. -/
theorem authenticatedPayload_eqUnless (token : TokenInput) (key : KeyArgument) (stack : Stack) :
    EqUnless .stackExhausted (authenticatedPayload token key stack)
      (authenticatedPayload token key) := by
  by_cases hkey : key = .absent
  · subst hkey
    exact .refl _ _
  rw [authenticatedPayload_eq_steps hkey, authenticatedPayload_eq_steps hkey]
  refine (CompactToken.ofInput_eqUnless token stack.header).bind fun parts => ?_
  refine (EqUnless.refl _ _).bind fun pair => ?_
  refine (EqUnless.refl _ _).bind fun method => ?_
  refine (EqUnless.refl _ _).bind fun publicKey => ?_
  refine (CompactToken.ofInput_eqUnless token stack.headerAgain).bind fun parts => ?_
  exact parts.authenticate_eqUnless publicKey method stack.payload

section Verification

variable (token : TokenInput) (key : KeyArgument) (clock : Clock) (stack : Stack)

/-- A token is verified as with enough stack, unless the stack ends. -/
theorem verifiedPayload_eqUnless : EqUnless .stackExhausted
    (verifiedPayload token key clock stack) (verifiedPayload token key clock) := by
  rw [verifiedPayload_eq, verifiedPayload_eq]
  exact (authenticatedPayload_eqUnless token key stack).bind fun payload => .refl _ _

/-- Claims of a wanted kind are verified with little room as they are with enough. -/
theorem parseToken_eqUnless (kind : ClaimsType) : EqUnless .stackExhausted
    (parseToken token key clock kind stack) (parseToken token key clock kind) :=
  (verifiedPayload_eqUnless token key clock stack).bind fun payload =>
    Claims.decodeAs_eqUnless kind (.object payload) stack.purpose

/-- So are claims of any kind. -/
theorem parseAnyToken_eqUnless : EqUnless .stackExhausted
    (parseAnyToken token key clock stack) (parseAnyToken token key clock) :=
  (verifiedPayload_eqUnless token key clock stack).bind fun payload =>
    Claims.decode_eqUnless (.object payload) stack.purpose

end Verification

/-! ## Inspection -/

/-- A segment is read as in enough room, unless the stack ends. -/
theorem inspectSegment_eqUnless (segment : Text) (room : Room) :
    EqUnless .stackExhausted (inspectSegment segment room) (inspectSegment segment) := by
  rw [inspectSegment, inspectSegment]
  cases segment.encodeUtf8? with
  | none => exact .refl _ _
  | some written =>
    dsimp only
    cases Base64.decodeLenient? written with
    | none => exact .refl _ _
    | some bytes => exact Json.readObject_eqUnless bytes room _ _

/-- A purpose is looked up as in enough room, unless the stack ends. -/
theorem inspectPurpose_eqUnless (payload : Members) (room : Room) :
    EqUnless .stackExhausted (inspectPurpose payload room) (inspectPurpose payload) := by
  cases hfound : Purpose.find? payload room with
  | none => exact .inl (inspectPurpose_eq_error_iff.mpr ⟨hfound, rfl⟩)
  | some purpose =>
    refine .inr ?_
    rw [inspectPurpose_unlimited, inspectPurpose, hfound, Purpose.eq_ofMembers_of_find? hfound]

namespace InspectedToken

/-- A token is inspected as with enough stack, unless the stack ends. -/
theorem ofText_eqUnless (token : Text) (stack : Stack) :
    EqUnless .stackExhausted (ofText token stack) (ofText token) := by
  rw [ofText_eq, ofText_eq]
  refine (EqUnless.refl _ _).bind fun segments => ?_
  refine (inspectSegment_eqUnless segments.1 stack.header).bind fun header => ?_
  refine (inspectSegment_eqUnless segments.2 stack.payload).bind fun payload => ?_
  exact (inspectPurpose_eqUnless payload stack.purpose).bind fun purpose => .refl _ _

/-- A token is inspected with little room as it is with enough. -/
theorem ofInput_eqUnless (token : TokenInput) (stack : Stack) :
    EqUnless .stackExhausted (ofInput token stack) (ofInput token) := by
  rw [ofInput, ofInput]
  cases token.text? with
  | none => exact .refl _ _
  | some t => exact ofText_eqUnless t stack

end InspectedToken

/-- What stands in for refused tokens does not stand in for the end of the stack. -/
theorem orDefault_eqUnless {α : Type} (default : α) {x y : Except Failure α}
    (h : EqUnless .stackExhausted x y) :
    EqUnless .stackExhausted (orDefault default x) (orDefault default y) := by
  -- The default stands for refusals, and an exhausted stack is none.
  rcases h with rfl | rfl
  · exact .inl rfl
  · exact .refl _ _

namespace TokenInput

/-- The question for the purpose is answered with little room as it is with enough. -/
theorem purpose_eqUnless (token : TokenInput) (stack : Stack) :
    EqUnless .stackExhausted (token.purpose stack) token.purpose := by
  rw [purpose, purpose]
  cases token.text? with
  | none => exact .refl _ _
  | some t =>
    refine orDefault_eqUnless _ (EqUnless.bind ?_ fun payload =>
      inspectPurpose_eqUnless payload stack.purpose)
    exact (EqUnless.refl _ _).bind fun segments => inspectSegment_eqUnless segments.2 stack.payload

/-- So is the question for the algorithm. -/
theorem signingAlgorithm_eqUnless (token : TokenInput) (stack : Stack) :
    EqUnless .stackExhausted (token.signingAlgorithm stack) token.signingAlgorithm := by
  rw [signingAlgorithm, signingAlgorithm]
  cases token.text? with
  | none => exact .refl _ _
  | some t =>
    refine orDefault_eqUnless _ (EqUnless.map ?_ _)
    exact (EqUnless.refl _ _).bind fun segments => inspectSegment_eqUnless segments.1 stack.header

end TokenInput

/-- An identity is stated as with enough stack, unless the stack ends. -/
theorem statedIdentity_eqUnless (token : TokenInput) (stack : Stack) :
    EqUnless .stackExhausted (statedIdentity token stack) (statedIdentity token) := by
  refine (InspectedToken.ofInput_eqUnless token stack).bind fun inspected => ?_
  have hclaims (kind : ClaimsType) : EqUnless .stackExhausted
      (inspected.claimsAs kind stack.purpose) (inspected.claimsAs kind) :=
    Claims.decodeAs_eqUnless kind (.object inspected.payload) stack.purpose
  cases inspected.purpose with
  | client => exact (hclaims .client).bind fun claims => .refl _ _
  | server => exact (hclaims .server).bind fun claims => .refl _ _
  | unknown => exact .refl _ _
  | provisioning => exact .refl _ _

/-- A connection is made with little room as it is with enough. -/
theorem Connection.ofToken_eqUnless (token : TokenInput) (collective seedFile : Text)
    (stack : Stack) : EqUnless .stackExhausted (ofToken token collective seedFile stack)
      (ofToken token collective seedFile) := by
  rw [ofToken, ofToken]
  split
  · exact .refl _ _
  split
  · exact .refl _ _
  · exact (statedIdentity_eqUnless token stack).bind fun identity => .refl _ _

/-! ## No room is enough -/

end FleetToken
