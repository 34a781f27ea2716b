import FleetToken.Proofs.Token.Segments
import FleetToken.Token.Verification

/-!
# Authenticated payloads

Verification looks at the time last. What it does before gives a payload exactly for the tokens
that are written in three segments, whose header names one of the four algorithms, and whose
signature the primitive of that algorithm accepts under a key that is labelled for it.

## Main definitions

* `SigningMethod.Accepts`: a signature primitive accepts a signature.
* `authenticatedPayload`: the payload of a token at any time.

## Main results

* `verifiedPayload_eq`: verification is authentication and then a look at the time.
* `authenticatedPayload_eq_ok_iff`: the tokens whose payload is looked at.
-/

namespace FleetToken

/-! ## Accepted signatures -/

/-- The signature primitive of an algorithm accepts a signature over some bytes, under a key of
the kind that the algorithm works with. -/
inductive SigningMethod.Accepts : SigningMethod → PublicKey → Bytes → Bytes → Prop where
  | edDSA {key : Ed25519.PublicKey} {input signature : Bytes}
      (h : Ed25519.verify key input signature = true) :
      Accepts .edDSA (.ed25519 key) input signature
  | rs256 {key : Rsa.PublicKey} {input signature : Bytes}
      (h : Rsa.verify key .sha256 input signature = true) :
      Accepts .rs256 (.rsa key) input signature
  | rs384 {key : Rsa.PublicKey} {input signature : Bytes}
      (h : Rsa.verify key .sha384 input signature = true) :
      Accepts .rs384 (.rsa key) input signature
  | rs512 {key : Rsa.PublicKey} {input signature : Bytes}
      (h : Rsa.verify key .sha512 input signature = true) :
      Accepts .rs512 (.rsa key) input signature

/-- A method only accepts signatures under keys of its own family. -/
theorem SigningMethod.Accepts.family_eq {method : SigningMethod} {key : PublicKey}
    {input signature : Bytes} (h : method.Accepts key input signature) :
    key.family = method.family := by
  cases h with
  | edDSA _ => rfl
  | rs256 _ => rfl
  | rs384 _ => rfl
  | rs512 _ => rfl

/-- A signature is right if and only if the primitive of the algorithm accepts it. -/
theorem PublicKey.verify_eq_ok_true_iff {key : PublicKey} {method : SigningMethod}
    {input signature : Bytes} :
    key.verify method input signature = .ok true ↔ method.Accepts key input signature := by
  constructor
  · intro h
    -- A key of the wrong kind ends in a failure, never in an answer.
    cases key with
    | ed25519 key =>
      cases method with
      | edDSA => exact .edDSA (Except.ok.inj h)
      | rs256 => exact absurd h (by simp [PublicKey.verify, SigningMethod.family])
      | rs384 => exact absurd h (by simp [PublicKey.verify, SigningMethod.family])
      | rs512 => exact absurd h (by simp [PublicKey.verify, SigningMethod.family])
    | rsa key =>
      cases method with
      | edDSA => exact absurd h (by simp [PublicKey.verify, SigningMethod.family])
      | rs256 => exact .rs256 (Except.ok.inj h)
      | rs384 => exact .rs384 (Except.ok.inj h)
      | rs512 => exact .rs512 (Except.ok.inj h)
  · intro h
    cases h with
    | edDSA h => exact congrArg Except.ok h
    | rs256 h => exact congrArg Except.ok h
    | rs384 h => exact congrArg Except.ok h
    | rs512 h => exact congrArg Except.ok h

/-! ## The algorithm in the header -/

/-- A method is found under its name and no other. -/
theorem SigningMethod.ofName?_eq_some_iff {name : Text} {method : SigningMethod} :
    ofName? name = some method ↔ name = Text.ofString method.name := by
  constructor
  · intro h
    rw [ofName?] at h
    have hfound := List.find?_some (p := fun m : SigningMethod => Text.ofString m.name == name) h
    exact (beq_iff_eq.mp hfound).symm
  · rintro rfl
    -- The four names are different, so each finds its own algorithm.
    cases method with
    | edDSA => rfl
    | rs256 => rfl
    | rs384 => rfl
    | rs512 => rfl

/-- A header has the method that its algorithm names. -/
theorem signingMethod_eq_ok_iff {header : Members} {method : SigningMethod} :
    signingMethod header = .ok method ↔
      CompactToken.entry? header "alg" = some (.string (Text.ofString method.name)) := by
  constructor
  · intro h
    rw [signingMethod.eq_def] at h
    simp only at h
    split at h
    · contradiction
    split at h
    · rename_i found hfound
      obtain rfl := Except.ok.inj h
      obtain ⟨name, hname, hmethod⟩ := Option.bind_eq_some_iff.mp hfound
      obtain rfl := SigningMethod.ofName?_eq_some_iff.mp hmethod
      cases halg : CompactToken.entry? header "alg" with
      | none =>
        -- A header without the entry names the empty algorithm, which is none of the four.
        rw [halg] at hname
        have hempty := Option.some.inj hname
        cases found <;> exact absurd hempty (by decide)
      | some value =>
        rw [halg, Option.getD_some] at hname
        -- The algorithm has to be a text.
        cases value with
        | string t => rw [Option.some.inj hname]
        | _ => exact absurd hname (by simp [Json.string?])
    · contradiction
  · intro h
    rw [signingMethod, h]
    simp [algorithmText?, Json.string?, SigningMethod.ofName?_eq_some_iff.mpr rfl]

/-! ## The payload at any time -/

/-- The payload of a token that is right under a key at some time: what is done before the time is
looked at. -/
def authenticatedPayload (token : TokenInput) (key : KeyArgument) (stack : Stack := {}) :
    Except Failure Members :=
  match key with
  | .absent => .error (.token .missingKey)
  | key => do
    let parts ← CompactToken.ofInput token stack.header
    let pair ← (KeyPair.ofArgument key).mapError .token
    let method ← signingMethod parts.header
    let publicKey ← (verificationKey pair method).mapError .token
    let parts ← CompactToken.ofInput token stack.headerAgain
    parts.authenticate publicKey method stack.payload

/-- With a key at hand, a payload is authenticated step by step. -/
theorem authenticatedPayload_eq_steps {key : KeyArgument} (hkey : key ≠ .absent)
    (token : TokenInput) (stack : Stack) :
    authenticatedPayload token key stack = (do
      let parts ← CompactToken.ofInput token stack.header
      let pair ← (KeyPair.ofArgument key).mapError .token
      let method ← signingMethod parts.header
      let publicKey ← (verificationKey pair method).mapError .token
      let parts ← CompactToken.ofInput token stack.headerAgain
      parts.authenticate publicKey method stack.payload) := by
  cases key with
  | absent => contradiction
  | _ => rfl

/-- With enough room on the stack, reading the token once more gives nothing new. -/
theorem authenticatedPayload_eq {key : KeyArgument} (hkey : key ≠ .absent) (token : TokenInput) :
    authenticatedPayload token key = (do
      let parts ← CompactToken.ofInput token
      let pair ← (KeyPair.ofArgument key).mapError .token
      let method ← signingMethod parts.header
      let publicKey ← (verificationKey pair method).mapError .token
      parts.authenticate publicKey method) := by
  rw [authenticatedPayload_eq_steps hkey]
  cases hparts : CompactToken.ofInput token with
  | error failure => rfl
  | ok parts => simp only [ok_bind]

theorem ne_absent_of_ofArgument {key : KeyArgument} {pair : KeyPair}
    (h : KeyPair.ofArgument key = .ok pair) : key ≠ .absent := by
  rintro rfl
  contradiction

/-- Verification is authentication and then a look at the time. -/
theorem verifiedPayload_eq (token : TokenInput) (key : KeyArgument) (clock : Clock)
    (stack : Stack) : verifiedPayload token key clock stack = do
      let payload ← authenticatedPayload token key stack
      (checkPayload payload clock).mapError .token
      return payload := by
  cases key with
  | absent => rfl
  | _ => simp only [verifiedPayload, authenticatedPayload, bind_assoc]

/-- A verified payload is an authentic one that passes its checks. -/
theorem verifiedPayload_eq_ok_iff {token : TokenInput} {key : KeyArgument} {clock : Clock}
    {payload : Members} : verifiedPayload token key clock = .ok payload ↔
      authenticatedPayload token key = .ok payload ∧ checkPayload payload clock = .ok () := by
  simp only [verifiedPayload_eq, bind_eq_ok_iff, mapError_eq_ok_iff, pure_eq_ok, Except.ok.injEq]
  constructor
  · rintro ⟨found, hauthentic, ⟨⟩, hchecked, rfl⟩
    exact ⟨hauthentic, hchecked⟩
  · rintro ⟨hauthentic, hchecked⟩
    exact ⟨payload, hauthentic, (), hchecked, rfl⟩

/-- A pair verifies with its public half, and only with methods of its family. -/
theorem verificationKey_eq_ok_iff {pair : KeyPair} {method : SigningMethod} {key : PublicKey} :
    verificationKey pair method = .ok key ↔ pair.family = method.family ∧ pair.publicKey = key := by
  rw [verificationKey]
  split
  · rename_i h
    simp [h]
  · rename_i h
    simp [h]

/-- With any other method it is refused for its kind. -/
theorem verificationKey_eq_error_iff {pair : KeyPair} {method : SigningMethod}
    {error : TokenError} : verificationKey pair method = .error error ↔
      pair.family ≠ method.family ∧ error = .keyTypeMismatch method.family := by
  rw [verificationKey]
  split
  · rename_i h
    simp [h]
  · rename_i h
    simp [h, eq_comm]

/-- A token is authentic if it is not detached, its signature is accepted and its payload is an
object. -/
theorem CompactToken.authenticate_eq_ok_iff {token : CompactToken} {key : PublicKey}
    {method : SigningMethod} {payload : Members} {room : Room} :
    token.authenticate key method room = .ok payload ↔ isDetached token.header = false
      ∧ method.Accepts key token.signingInput token.signature
      ∧ Json.decode token.payload room = .ok (.object payload) := by
  rw [authenticate]
  -- A detached payload is refused before the signature is looked at.
  cases hdetached : isDetached token.header with
  | true =>
    simp only [↓reduceIte, Bool.true_eq_false, false_and, iff_false]
    split
    · simp
    · simp
  | false =>
    simp only [Bool.false_eq_true, ↓reduceIte, true_and, bind_eq_ok_iff]
    constructor
    · rintro ⟨accepted, hverify, hpayload⟩
      -- A signature that is not accepted ends the verification.
      cases accepted with
      | false => contradiction
      | true =>
        rw [if_pos rfl, payloadMembers, Json.readObject_eq_ok_iff] at hpayload
        exact ⟨PublicKey.verify_eq_ok_true_iff.mp hverify, hpayload⟩
    · rintro ⟨haccepts, hpayload⟩
      refine ⟨true, PublicKey.verify_eq_ok_true_iff.mpr haccepts, ?_⟩
      rw [if_pos rfl, payloadMembers, Json.readObject_eq_ok_iff]
      exact hpayload

/-- A key that cannot verify is unusable, or of the wrong kind for the library. -/
theorem PublicKey.failure_of_verify {key : PublicKey} {method : SigningMethod}
    {input signature : Bytes} {failure : Failure}
    (h : key.verify method input signature = .error failure) :
    failure = .token (.invalidToken .unusableKey) ∨ failure = .wrongKeyKind := by
  rw [verify.eq_def] at h
  split at h
  · contradiction
  · exact .inl (Except.error.inj h).symm
  · exact .inr (Except.error.inj h).symm
  · contradiction

/-- What can be wrong with the signature and the payload behind it. -/
theorem CompactToken.failure_of_authenticate {token : CompactToken} {key : PublicKey}
    {method : SigningMethod} {failure : Failure} {room : Room}
    (h : token.authenticate key method room = .error failure) :
    (∃ fault, failure = .token (.invalidToken fault)) ∨ failure = .wrongKeyKind
      ∨ failure = .token (.signatureInvalid (Text.ofString method.name))
      ∨ failure = .stackExhausted := by
  rw [authenticate] at h
  split at h
  · split at h
    · exact .inl ⟨_, (Except.error.inj h).symm⟩
    · exact .inl ⟨_, (Except.error.inj h).symm⟩
  -- The signature is looked at before the payload is read.
  rcases bind_eq_error_iff.mp h with hverify | ⟨accepted, -, hafter⟩
  · rcases PublicKey.failure_of_verify hverify with rfl | rfl
    · exact .inl ⟨_, rfl⟩
    · exact .inr (.inl rfl)
  split at hafter
  · rcases Json.failure_of_readObject hafter with ⟨fault, rfl⟩ | rfl
    · exact .inl ⟨fault, rfl⟩
    · exact .inr (.inr (.inr rfl))
  · exact .inr (.inr (.inl (Except.error.inj hafter).symm))

/-- A key of the kind that the algorithm works with gives an answer. -/
theorem PublicKey.exists_verify_eq_ok {key : PublicKey} {method : SigningMethod}
    (hfamily : key.family = method.family) (input signature : Bytes) :
    ∃ accepted, key.verify method input signature = .ok accepted := by
  rw [verify.eq_def, ← hfamily]
  cases key with
  | ed25519 key => exact ⟨_, rfl⟩
  | rsa key => exact ⟨_, rfl⟩

/-- A signature that the primitive does not accept is reported as such, if the key is of the kind
that the algorithm works with. -/
theorem CompactToken.authenticate_eq_signatureInvalid {token : CompactToken} {key : PublicKey}
    {method : SigningMethod} (hattached : isDetached token.header = false)
    (hfamily : key.family = method.family)
    (h : ¬method.Accepts key token.signingInput token.signature) :
    token.authenticate key method
      = .error (.token (.signatureInvalid (Text.ofString method.name))) := by
  obtain ⟨accepted, hverify⟩ :=
    PublicKey.exists_verify_eq_ok hfamily token.signingInput token.signature
  cases accepted with
  | true => exact absurd (PublicKey.verify_eq_ok_true_iff.mp hverify) h
  | false =>
    rw [authenticate, hattached]
    simp only [Bool.false_eq_true, ↓reduceIte, hverify, ok_bind]
    rfl

/-- The tokens whose payload is looked at. -/
theorem authenticatedPayload_eq_ok_iff {token : TokenInput} {key : KeyArgument}
    {payload : Members} :
    authenticatedPayload token key = .ok payload ↔
      ∃ (parts : CompactToken) (pair : KeyPair) (method : SigningMethod),
      CompactToken.ofInput token = .ok parts ∧ KeyPair.ofArgument key = .ok pair
        ∧ CompactToken.entry? parts.header "alg" = some (.string (Text.ofString method.name))
        ∧ pair.family = method.family ∧ CompactToken.isDetached parts.header = false
        ∧ method.Accepts pair.publicKey parts.signingInput parts.signature
        ∧ Json.decode parts.payload = .ok (.object payload) := by
  -- The steps in the order in which they are made, each of which must succeed.
  have hsteps : authenticatedPayload token key = .ok payload ↔
      ∃ (parts : CompactToken) (pair : KeyPair) (method : SigningMethod) (publicKey : PublicKey),
      CompactToken.ofInput token = .ok parts ∧ KeyPair.ofArgument key = .ok pair
        ∧ signingMethod parts.header = .ok method ∧ verificationKey pair method = .ok publicKey
        ∧ parts.authenticate publicKey method = .ok payload := by
    by_cases hkey : key = .absent
    · subst hkey
      simp [authenticatedPayload, KeyPair.ofArgument]
    · simp [authenticatedPayload_eq hkey, bind_eq_ok_iff, mapError_eq_ok_iff]
  rw [hsteps]
  constructor
  · rintro ⟨parts, pair, method, publicKey, hparts, hpair, hmethod, hkey, hpayload⟩
    obtain ⟨hfamily, rfl⟩ := verificationKey_eq_ok_iff.mp hkey
    exact ⟨parts, pair, method, hparts, hpair, signingMethod_eq_ok_iff.mp hmethod, hfamily,
      CompactToken.authenticate_eq_ok_iff.mp hpayload⟩
  · rintro ⟨parts, pair, method, hparts, hpair, hmethod, hfamily, hpayload⟩
    exact ⟨parts, pair, method, pair.publicKey, hparts, hpair, signingMethod_eq_ok_iff.mpr hmethod,
      verificationKey_eq_ok_iff.mpr ⟨hfamily, rfl⟩,
      CompactToken.authenticate_eq_ok_iff.mpr hpayload⟩

end FleetToken
