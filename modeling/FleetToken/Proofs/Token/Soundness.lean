import FleetToken.Proofs.Token.Signed
import FleetToken.Proofs.Token.Stack

/-!
# Soundness of verification

Whatever is learnt from a token's payload is learnt from a token that the key stands for. A
payload, claims, a report of expiry and a report on the claims are given only after the signature
primitive of the algorithm in the header has accepted the third segment over the first two, under a
public key of the kind that the algorithm works with.

## Main definitions

* `KeyPair.Endorses`: a key pair stands for a token.
* `RevealsPayload`: an outcome that tells something of the payload.

## Main results

* `endorsed_of_revealsPayload`: an outcome that tells something of the payload shows that the key
  stands for the token, whatever the clock and whatever claims were wanted.
-/

namespace FleetToken

/-! ## Tokens that a key stands for -/

/-- A key pair stands for a token whose three segments are the given ones. -/
structure KeyPair.Endorses (pair : KeyPair) (method : SigningMethod)
    (token header payload signature : Text) : Prop where
  /-- The token is three segments with dots between them. -/
  split_eq : Text.split (CodePoint.ofChar '.') token = [header, payload, signature]
  /-- The header is a JSON object that names the algorithm. -/
  alg_eq : ∃ bytes members, Base64.decode? .url header.toUtf8 = some bytes
    ∧ Json.decode bytes = .ok (.object members)
    ∧ CompactToken.entry? members "alg" = some (.string (Text.ofString method.name))
  /-- The public key is of the kind that the algorithm works with. -/
  family_eq : pair.publicKey.family = method.family
  /-- The label of the pair tells the kind of its public key. -/
  label_eq : pair.family = pair.publicKey.family
  /-- The primitive of the algorithm accepts the third segment over the first two. -/
  accepted : ∃ bytes, Base64.decode? .url signature.toUtf8 = some bytes
    ∧ method.Accepts pair.publicKey (header ++ CodePoint.ofChar '.' :: payload).toUtf8 bytes

/-- An authentic token is endorsed, and its second segment writes the payload. -/
theorem endorses_of_authenticatedPayload {token : Text} {key : KeyArgument} {payload : Members}
    (h : authenticatedPayload (.text token) key = .ok payload) :
    ∃ pair method header segment signature, KeyPair.ofArgument key = .ok pair
      ∧ pair.Endorses method token header segment signature
      ∧ ∃ bytes, Base64.decode? .url segment.toUtf8 = some bytes
        ∧ Json.decode bytes = .ok (.object payload) := by
  obtain ⟨parts, pair, method, hparts, hpair, halg, hlabel, -, haccepts, hpayload⟩ :=
    authenticatedPayload_eq_ok_iff.mp h
  obtain ⟨header, segment, signature, rfl, hwrites⟩ :=
    CompactToken.ofInput_text_eq_ok_iff.mp hparts
  obtain ⟨headerBytes, hheader, hmembers⟩ := hwrites.header_eq
  -- The segments are ASCII, so their texts and their bytes tell the same.
  refine ⟨pair, method, Text.ofAscii header, Text.ofAscii segment, Text.ofAscii signature, hpair,
    ⟨hwrites.split_eq, ⟨headerBytes, parts.header, ?_, hmembers, halg⟩, haccepts.family_eq, ?_,
      ⟨parts.signature, ?_, ?_⟩⟩, ⟨parts.payload, ?_, hpayload⟩⟩
  · rw [Text.toUtf8_ofAscii hwrites.header_lt, hheader]
  · rw [hlabel, haccepts.family_eq]
  · rw [Text.toUtf8_ofAscii hwrites.signature_lt, hwrites.signature_eq]
  · rw [hwrites.signingInput_toUtf8]
    exact haccepts
  · rw [Text.toUtf8_ofAscii hwrites.payload_lt, hwrites.payload_eq]

/-! ## Outcomes that tell something of the payload -/

/-- A failure that tells something of the payload: that it has expired, or what its claims are
not. -/
def Failure.RevealsPayload : Failure → Prop
  | .token .tokenExpired => True
  | .token (.invalidClaims _) => True
  | _ => False

/-- An outcome that tells something of the payload. -/
def RevealsPayload {α : Type} : Except Failure α → Prop
  | .ok _ => True
  | .error failure => failure.RevealsPayload

section Concealing

variable {token : TokenInput} {key : KeyArgument} {failure : Failure}

-- Each step before the payload has been read fails in ways of its own, none of which reveals it.

/-- Taking a token apart reveals no payload. -/
theorem not_revealsPayload_of_ofInput (h : CompactToken.ofInput token = .error failure) :
    ¬failure.RevealsPayload := by
  rcases CompactToken.failure_of_ofInput h with ⟨fault, rfl⟩ | rfl | rfl
  · exact id
  · exact id
  · exact id

/-- Nor does taking the key. -/
theorem not_revealsPayload_of_ofArgument
    (h : (KeyPair.ofArgument key).mapError Failure.token = .error failure) :
    ¬failure.RevealsPayload := by
  obtain ⟨error, herror, rfl⟩ := mapError_eq_error_iff.mp h
  -- Only a pair, or one half of a key that is of use, leads on to the token.
  cases key with
  | absent =>
    obtain rfl := Except.error.inj herror
    exact id
  | pair pair => contradiction
  | bare loaded =>
    cases loaded with
    | publicHalf _ => contradiction
    | privateHalf _ => contradiction
    | foreign kind half =>
      obtain rfl := Except.error.inj herror
      exact id
  | other typeName =>
    obtain rfl := Except.error.inj herror
    exact id

/-- Nor does looking up the method. -/
theorem not_revealsPayload_of_signingMethod {header : Members}
    (h : signingMethod header = .error failure) : ¬failure.RevealsPayload := by
  rw [signingMethod.eq_def] at h
  simp only at h
  split at h
  · obtain rfl := Except.error.inj h
    exact id
  split at h
  · contradiction
  · obtain rfl := Except.error.inj h
    exact id

/-- Nor does choosing the key to verify with. -/
theorem not_revealsPayload_of_verificationKey {pair : KeyPair} {method : SigningMethod}
    (h : (verificationKey pair method).mapError Failure.token = .error failure) :
    ¬failure.RevealsPayload := by
  obtain ⟨error, herror, rfl⟩ := mapError_eq_error_iff.mp h
  obtain ⟨-, rfl⟩ := verificationKey_eq_error_iff.mp herror
  exact id

/-- Nor does a failed authentication. -/
theorem not_revealsPayload_of_authenticate {parts : CompactToken} {publicKey : PublicKey}
    {method : SigningMethod} (h : parts.authenticate publicKey method = .error failure) :
    ¬failure.RevealsPayload := by
  rcases CompactToken.failure_of_authenticate h with ⟨fault, rfl⟩ | rfl | rfl | rfl
  · exact id
  · exact id
  · exact id
  · exact id

/-- A failure before the time is looked at tells nothing of the payload. -/
theorem not_revealsPayload_of_authenticatedPayload
    (h : authenticatedPayload token key = .error failure) : ¬failure.RevealsPayload := by
  by_cases hkey : key = .absent
  · subst hkey
    obtain rfl := Except.error.inj h
    exact id
  -- With a key at hand the first step that fails decides.
  rw [authenticatedPayload_eq hkey] at h
  rcases bind_eq_error_iff.mp h with hinput | ⟨parts, -, h⟩
  · exact not_revealsPayload_of_ofInput hinput
  rcases bind_eq_error_iff.mp h with hargument | ⟨pair, -, h⟩
  · exact not_revealsPayload_of_ofArgument hargument
  rcases bind_eq_error_iff.mp h with hmethod | ⟨method, -, h⟩
  · exact not_revealsPayload_of_signingMethod hmethod
  rcases bind_eq_error_iff.mp h with hkey | ⟨publicKey, -, h⟩
  · exact not_revealsPayload_of_verificationKey hkey
  · exact not_revealsPayload_of_authenticate h

/-- What is done with an authenticated payload reveals it only if there is one. -/
theorem exists_payload_of_revealsPayload {α : Type} {next : Members → Except Failure α}
    (h : RevealsPayload (authenticatedPayload token key >>= next)) :
    ∃ payload, authenticatedPayload token key = .ok payload := by
  cases hpayload : authenticatedPayload token key with
  | ok payload => exact ⟨payload, rfl⟩
  | error failure =>
    rw [hpayload, error_bind] at h
    exact absurd h (not_revealsPayload_of_authenticatedPayload hpayload)

end Concealing

/-- An exhausted stack tells nothing of the payload, so that it does not matter how much room there
is. -/
theorem RevealsPayload.of_eqUnless {α : Type} {x y : Except Failure α}
    (h : EqUnless .stackExhausted x y) (hx : RevealsPayload x) : RevealsPayload y := by
  rcases h with rfl | rfl
  · exact absurd hx id
  · exact hx

/-! ## Soundness -/

/-- An outcome that tells something of the payload shows that the key stands for the token. This
holds of the payload alone and of claims of every kind, under every key, at every time, and however
much room there is on the stack. -/
theorem endorsed_of_revealsPayload (token : Text) (key : KeyArgument) (clock : Clock)
    (stack : Stack)
    (h : RevealsPayload (verifiedPayload (.text token) key clock stack)
      ∨ (∃ kind, RevealsPayload (parseToken (.text token) key clock kind stack))
      ∨ RevealsPayload (parseAnyToken (.text token) key clock stack)) :
    ∃ pair method header payload signature, KeyPair.ofArgument key = .ok pair
      ∧ pair.Endorses method token header payload signature := by
  obtain ⟨payload, hpayload⟩ : ∃ payload, authenticatedPayload (.text token) key = .ok payload := by
    -- All three begin with the same authentication.
    rcases h with h | ⟨kind, h⟩ | h
    · replace h := h.of_eqUnless (verifiedPayload_eqUnless _ _ _ stack)
      rw [verifiedPayload_eq] at h
      exact exists_payload_of_revealsPayload h
    · replace h := h.of_eqUnless (parseToken_eqUnless _ _ _ stack kind)
      rw [parseToken, verifiedPayload_eq, bind_assoc] at h
      exact exists_payload_of_revealsPayload h
    · replace h := h.of_eqUnless (parseAnyToken_eqUnless _ _ _ stack)
      rw [parseAnyToken, verifiedPayload_eq, bind_assoc] at h
      exact exists_payload_of_revealsPayload h
  obtain ⟨pair, method, header, segment, signature, hpair, hendorses, -⟩ :=
    endorses_of_authenticatedPayload hpayload
  exact ⟨pair, method, header, segment, signature, hpair, hendorses⟩

/-- A token without claims that has a payload, and is therefore endorsed. -/
theorem exists_endorsed_mersennePair : ∃ token,
    verifiedPayload (.text token) mersennePair.publicArgument (.mk 0) = .ok []
      ∧ ∃ pair method header payload signature,
        KeyPair.ofArgument mersennePair.publicArgument = .ok pair
          ∧ pair.Endorses method token header payload signature := by
  have hempty : (Json.object []).Lossless := .object List.nodup_nil (by simp) (by simp)
  obtain ⟨privateKey, token, -, -, hpayload⟩ :=
    mersennePair_verifiesItself.exists_token_publicArgument hempty
  -- An empty payload states no times, so that no clock refuses it.
  have hverified : verifiedPayload (.text token) mersennePair.publicArgument (.mk 0) = .ok [] := by
    rw [verifiedPayload_eq, hpayload]
    rfl
  refine ⟨token, hverified,
    endorsed_of_revealsPayload token mersennePair.publicArgument (.mk 0) {} ?_⟩
  rw [hverified]
  exact .inl trivial

end FleetToken
