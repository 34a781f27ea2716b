import FleetToken.Proofs.Key.Loading
import FleetToken.Proofs.Token.Checks
import FleetToken.Proofs.Token.Request
import FleetToken.Proofs.Token.Signed
import FleetToken.Token.Inspection

/-!
# The stages of verification

Verification rejects in a fixed order: without a key at once, then for the algorithm in the header
and the family of the key, then for the signature, and only then for anything in the payload. No
stage looks at what is left to a later one. So the refusal of a key tells nothing of the payload, of
the signature and of the clock, and a wrong signature is reported as such whatever it is over.

## Main definitions

* `TokenInput.ConsistsOf`: a token by its three segments.
* `CompactToken.PlainHeader`: a header that says nothing but its algorithm.
* `TokenError.RefusesKey`: the errors of the stage that looks at the key.
* `StagedBy`: what a key makes of the tokens with one header, stage by stage.

## Main results

* `Request.answer_eq_refusal_iff`: the refusal of a key depends on the header alone.
* `Request.answer_congr`: a key counts by its label and its public half.
* `verification_staged`: the whole order.
-/

namespace FleetToken

/-! ## Tokens with plain headers -/

/-- A token is three segments, the last two of which are Base64 for bytes of any kind. -/
structure TokenInput.ConsistsOf (token : TokenInput) (header payload signature : Bytes) :
    Prop where
  /-- There are dots between the segments. -/
  bytes_eq : token.bytes? = some (tokenBytes header payload signature)
  /-- The second segment is strict Base64. -/
  payload_isSome : (Base64.decode? .url payload).isSome
  /-- The third segment is strict Base64. -/
  signature_isSome : (Base64.decode? .url signature).isSome

namespace CompactToken

/-- A header segment writes an object that names neither a key nor extensions, and no algorithm
but by a text. -/
structure PlainHeader (segment : Bytes) (header : Members) : Prop where
  /-- The segment writes the object. -/
  writes : ∃ bytes, Base64.decode? .url segment = some bytes
    ∧ Json.decode bytes = .ok (.object header)
  /-- No key is named. -/
  kid_eq : entry? header "kid" = none
  /-- No extension is critical. -/
  crit_eq : entry? header "crit" = none
  /-- Nothing is said about how the payload is written. -/
  b64_eq : entry? header "b64" = none
  /-- The algorithm is absent or a text. -/
  alg_text : ∀ value, entry? header "alg" = some value → ∃ name, value = .string name

/-- A token is taken apart as its bytes are. -/
theorem ofInput_eq_ok_of_bytes? {token : TokenInput} {bytes : Bytes} {parts : CompactToken}
    (htoken : token.bytes? = some bytes) (hparts : ofBytes bytes = .ok parts) :
    ofInput token = .ok parts := by
  cases token with
  | text t =>
    replace htoken : t.encodeUtf8? = some bytes := htoken
    rw [ofInput, htoken]
    exact hparts
  | bytes b =>
    obtain rfl := Option.some.inj htoken
    exact hparts
  | other => contradiction

namespace PlainHeader

variable {segment : Bytes} {header : Members} (h : PlainHeader segment header)
include h

/-- A plain header does not detach the payload. -/
theorem isDetached_eq : isDetached header = false := by
  rw [isDetached, h.b64_eq]

/-- A plain header passes its checks. -/
theorem checkHeader_eq : checkHeader header = .ok () := by
  rw [checkHeader, h.kid_eq, h.crit_eq]
  rfl

/-- A token with a plain header is read, whatever its payload and its signature are. -/
theorem ofInput_eq {token : TokenInput} {payload signature payloadBytes signatureBytes : Bytes}
    (htoken : token.bytes? = some (tokenBytes segment payload signature))
    (hpayload : Base64.decode? .url payload = some payloadBytes)
    (hsignature : Base64.decode? .url signature = some signatureBytes) :
    ofInput token
      = .ok ⟨header, segment ++ segmentDot :: payload, payloadBytes, signatureBytes⟩ := by
  refine ofInput_eq_ok_of_bytes? htoken (ofBytes_eq_ok_iff.mpr ⟨_, _, _, rfl, ?_⟩)
  refine ⟨h.writes, hpayload, hsignature, rfl, ?_, h.checkHeader_eq⟩
  rw [h.isDetached_eq]
  simp

/-- The algorithm of a plain header is found by the name that the header states. -/
theorem signingMethod_eq : signingMethod header =
    match SigningMethod.ofName? (statedAlgorithm header) with
    | some method => .ok method
    | none => .error (.token (.unsupportedKeyType (.signingMethod (statedAlgorithm header)))) := by
  rw [signingMethod, statedAlgorithm]
  cases halg : entry? header "alg" with
  | none => rfl
  | some value =>
    obtain ⟨name, rfl⟩ := h.alg_text value halg
    rfl

/-- A plain header is refused if it names none of the four algorithms. -/
theorem signingMethod_eq_error_iff {failure : Failure} : signingMethod header = .error failure ↔
    (∀ method : SigningMethod,
      entry? header "alg" ≠ some (.string (Text.ofString method.name)))
    ∧ failure = .token (.unsupportedKeyType (.signingMethod (statedAlgorithm header))) := by
  have hmethod := h.signingMethod_eq
  -- A name that is found belongs to one of the four methods, and no other name does.
  cases hname : SigningMethod.ofName? (statedAlgorithm header) with
  | some method =>
    rw [hname] at hmethod
    rw [hmethod]
    constructor
    · intro herror
      contradiction
    · rintro ⟨hnone, -⟩
      exact absurd (signingMethod_eq_ok_iff.mp hmethod) (hnone method)
  | none =>
    rw [hname] at hmethod
    rw [hmethod]
    constructor
    · intro herror
      refine ⟨fun method halg => ?_, (Except.error.inj herror).symm⟩
      rw [signingMethod_eq_ok_iff.mpr halg] at hmethod
      contradiction
    · rintro ⟨-, rfl⟩
      rfl

end PlainHeader

end CompactToken

/-! ## The stage of the key -/

/-- An error by which the algorithm or the family of a key is refused. -/
inductive TokenError.RefusesKey : TokenError → Prop where
  /-- The algorithm is none of the four, or the key is of no use for tokens. -/
  | unsupported (what : UnsupportedKey) : RefusesKey (.unsupportedKeyType what)
  /-- The algorithm works with keys of another family. -/
  | mismatch (family : KeyFamily) : RefusesKey (.keyTypeMismatch family)

/-- Authentication does not refuse a key. -/
theorem not_refusesKey_of_authenticate {parts : CompactToken} {publicKey : PublicKey}
    {method : SigningMethod} {error : TokenError}
    (h : parts.authenticate publicKey method = .error (.token error)) : ¬error.RefusesKey := by
  rcases CompactToken.failure_of_authenticate h with ⟨fault, herror⟩ | herror | herror | herror
  · obtain rfl := Failure.token.inj herror
    rintro ⟨⟩
  · contradiction
  · obtain rfl := Failure.token.inj herror
    rintro ⟨⟩
  · contradiction

namespace Request

variable {request : Request} {token : TokenInput} {key : KeyArgument} {clock : Clock}
  {pair : KeyPair} {parts : CompactToken}

/-- A token that is read is answered for stage by stage. -/
theorem answer_eq_of_ofInput (hparts : CompactToken.ofInput token = .ok parts)
    (hpair : KeyPair.ofArgument key = .ok pair) : request.answer token key clock = (do
      let method ← signingMethod parts.header
      let publicKey ← (verificationKey pair method).mapError .token
      let members ← parts.authenticate publicKey method
      (checkPayload members clock).mapError .token
      request.ofPayload members) := by
  rw [answer_eq, authenticatedPayload_eq (ne_absent_of_ofArgument hpair), hparts, ok_bind, hpair,
    mapError_ok, ok_bind]
  simp only [bind_assoc]

/-- Whether and how a key is refused is decided by the header of the token. -/
theorem answer_eq_refusal_iff (hparts : CompactToken.ofInput token = .ok parts)
    (hpair : KeyPair.ofArgument key = .ok pair) {error : TokenError} (herror : error.RefusesKey) :
    request.answer token key clock = .error (.token error) ↔
      signingMethod parts.header = .error (.token error)
        ∨ ∃ method, signingMethod parts.header = .ok method
          ∧ verificationKey pair method = .error error := by
  rw [answer_eq_of_ofInput hparts hpair]
  constructor
  · intro h
    rcases bind_eq_error_iff.mp h with hmethod | ⟨method, hmethod, h⟩
    · exact .inl hmethod
    rcases bind_eq_error_iff.mp h with hkey | ⟨publicKey, -, h⟩
    · obtain ⟨other, hother, hsame⟩ := mapError_eq_error_iff.mp hkey
      obtain rfl := Failure.token.inj hsame
      exact .inr ⟨method, hmethod, hother⟩
    -- All later stages fail with errors of other kinds.
    rcases bind_eq_error_iff.mp h with hauthentic | ⟨members, -, h⟩
    · exact absurd herror (not_refusesKey_of_authenticate hauthentic)
    rcases bind_eq_error_iff.mp h with hchecked | ⟨-, -, hfound⟩
    · obtain ⟨other, hother, hsame⟩ := mapError_eq_error_iff.mp hchecked
      obtain rfl := Failure.token.inj hsame
      rcases expired_or_invalid_of_checkPayload hother with rfl | ⟨fault, rfl⟩
      · cases herror
      · cases herror
    · obtain ⟨fault, hfault⟩ := invalidClaims_of_ofPayload hfound
      obtain rfl := Failure.token.inj hfault
      cases herror
  · rintro (hmethod | ⟨method, hmethod, hkey⟩)
    · rw [hmethod, error_bind]
    · rw [hmethod, ok_bind, hkey, mapError_error, error_bind]

/-- A key counts by its label and its public half. -/
theorem answer_congr {other : KeyArgument} {pair' : KeyPair}
    (hpair : KeyPair.ofArgument key = .ok pair) (hother : KeyPair.ofArgument other = .ok pair')
    (hfamily : pair'.family = pair.family) (hpublic : pair'.publicKey = pair.publicKey) :
    request.answer token key clock = request.answer token other clock := by
  rw [answer_eq, answer_eq, authenticatedPayload_eq (ne_absent_of_ofArgument hpair),
    authenticatedPayload_eq (ne_absent_of_ofArgument hother)]
  simp only [hpair, hother, mapError_ok, ok_bind, verificationKey, hfamily, hpublic]

end Request

/-! ## All stages -/

/-- What a key makes of the tokens with one plain header, stage by stage. -/
structure StagedBy (key : KeyArgument) (pair : KeyPair) (segment : Bytes) (header : Members) :
    Prop where
  /-- The key is refused for all tokens with the header or for none, and in the same way, whatever
  the payloads, the signatures, the clocks and the requests are. -/
  refusal_iff : ∀ token token' payload payload' signature signature',
    TokenInput.ConsistsOf token segment payload signature →
    TokenInput.ConsistsOf token' segment payload' signature' →
    ∀ (request request' : Request) (clock clock' : Clock) (error : TokenError), error.RefusesKey →
      (request.answer token key clock = .error (.token error) ↔
        request'.answer token' key clock' = .error (.token error))
  /-- The algorithm is unsupported if it is none of the four. -/
  unsupported_iff : ∀ token payload signature,
    TokenInput.ConsistsOf token segment payload signature →
    ∀ (request : Request) (clock : Clock) (what : UnsupportedKey),
      request.answer token key clock = .error (.token (.unsupportedKeyType what)) ↔
        (∀ method : SigningMethod,
          CompactToken.entry? header "alg" ≠ some (.string (Text.ofString method.name)))
        ∧ what = .signingMethod (statedAlgorithm header)
  /-- The key does not match if the algorithm is one of the four and works with keys of another
  family than the pair is labelled with. -/
  mismatch_iff : ∀ token payload signature,
    TokenInput.ConsistsOf token segment payload signature →
    ∀ (request : Request) (clock : Clock) (family : KeyFamily),
      request.answer token key clock = .error (.token (.keyTypeMismatch family)) ↔
        ∃ method : SigningMethod,
          CompactToken.entry? header "alg" = some (.string (Text.ofString method.name))
          ∧ method.family = family ∧ pair.family ≠ family
  /-- If the families match, a signature that does not verify over the first two segments is
  reported as such. -/
  signatureInvalid : ∀ token payload signature,
    TokenInput.ConsistsOf token segment payload signature →
    ∀ (method : SigningMethod) (signatureBytes : Bytes),
      CompactToken.entry? header "alg" = some (.string (Text.ofString method.name)) →
      pair.family = method.family → pair.publicKey.family = method.family →
      Base64.decode? .url signature = some signatureBytes →
      ¬method.Accepts pair.publicKey (segment ++ segmentDot :: payload) signatureBytes →
      ∀ (request : Request) (clock : Clock), request.answer token key clock
        = .error (.token (.signatureInvalid (Text.ofString method.name)))

/-- The stages of verification under a key for tokens with a plain header. -/
theorem stagedBy_of_plainHeader {key : KeyArgument} {pair : KeyPair} {segment : Bytes}
    {header : Members} (hpair : KeyPair.ofArgument key = .ok pair)
    (hheader : CompactToken.PlainHeader segment header) : StagedBy key pair segment header := by
  -- All tokens with the header are read, and then the header alone decides on the key.
  have hrefusal {token : TokenInput} {payload signature : Bytes}
      (htoken : token.ConsistsOf segment payload signature) (request : Request) (clock : Clock)
      {error : TokenError} (herror : error.RefusesKey) :
      request.answer token key clock = .error (.token error) ↔
        signingMethod header = .error (.token error)
          ∨ ∃ method, signingMethod header = .ok method
            ∧ verificationKey pair method = .error error := by
    obtain ⟨payloadBytes, hpayload⟩ := Option.isSome_iff_exists.mp htoken.payload_isSome
    obtain ⟨signatureBytes, hsignature⟩ := Option.isSome_iff_exists.mp htoken.signature_isSome
    exact Request.answer_eq_refusal_iff
      (hheader.ofInput_eq htoken.bytes_eq hpayload hsignature) hpair herror
  constructor
  case refusal_iff =>
    intro token token' payload payload' signature signature' htoken htoken' request request' clock
      clock' error herror
    rw [hrefusal htoken request clock herror, hrefusal htoken' request' clock' herror]
  case unsupported_iff =>
    intro token payload signature htoken request clock what
    rw [hrefusal htoken request clock (.unsupported what), hheader.signingMethod_eq_error_iff]
    simp only [verificationKey_eq_error_iff, reduceCtorEq, and_false, exists_false, or_false,
      Failure.token.injEq, TokenError.unsupportedKeyType.injEq]
  case mismatch_iff =>
    intro token payload signature htoken request clock family
    rw [hrefusal htoken request clock (.mismatch family), hheader.signingMethod_eq_error_iff]
    simp only [verificationKey_eq_error_iff, signingMethod_eq_ok_iff, reduceCtorEq, and_false,
      false_or, Failure.token.injEq, TokenError.keyTypeMismatch.injEq]
    constructor
    · rintro ⟨method, halg, hfamily, rfl⟩
      exact ⟨method, halg, rfl, hfamily⟩
    · rintro ⟨method, halg, rfl, hfamily⟩
      exact ⟨method, halg, hfamily, rfl⟩
  case signatureInvalid =>
    intro token payload signature htoken method signatureBytes halg hlabel hfamily hsignature
      hrejects request clock
    obtain ⟨payloadBytes, hpayload⟩ := Option.isSome_iff_exists.mp htoken.payload_isSome
    have hparts := hheader.ofInput_eq htoken.bytes_eq hpayload hsignature
    have hkey : verificationKey pair method = .ok pair.publicKey :=
      verificationKey_eq_ok_iff.mpr ⟨hlabel, rfl⟩
    have hinvalid : (CompactToken.mk header (segment ++ segmentDot :: payload) payloadBytes
        signatureBytes).authenticate pair.publicKey method
          = .error (.token (.signatureInvalid (Text.ofString method.name))) :=
      CompactToken.authenticate_eq_signatureInvalid hheader.isDetached_eq hfamily hrejects
    rw [Request.answer_eq_of_ofInput hparts hpair, signingMethod_eq_ok_iff.mpr halg, ok_bind, hkey,
      mapError_ok, ok_bind, hinvalid, error_bind]

/-- Verification rejects in a fixed order. Without a key everything is refused at once. Under every
key that is of use, the tokens with one plain header are judged stage by stage. All loaders build
honest pairs, and an honest pair, its public half and its private half are one and the same key. -/
theorem verification_staged :
    (∀ (request : Request) (token : TokenInput) (clock : Clock),
      request.answer token .absent clock = .error (.token .missingKey))
    ∧ (∀ key pair segment header, KeyPair.ofArgument key = .ok pair →
      CompactToken.PlainHeader segment header → StagedBy key pair segment header)
    ∧ (∀ pair : KeyPair, pair.IsLoaded → pair.IsHonest)
    ∧ (∀ pair : KeyPair, pair.IsHonest →
      ∀ (request : Request) (token : TokenInput) (clock : Clock),
        request.answer token pair.publicArgument clock = request.answer token (.pair pair) clock
        ∧ ∀ privateKey, pair.privateKey = some privateKey →
          request.answer token (.bare (.privateHalf privateKey)) clock
            = request.answer token (.pair pair) clock) := by
  refine ⟨?_, ?_, fun pair => KeyPair.IsLoaded.isHonest, ?_⟩
  · intro request token clock
    exact Request.answer_eq_error rfl
  · intro key pair segment header hpair hheader
    exact stagedBy_of_plainHeader hpair hheader
  intro pair hhonest request token clock
  refine ⟨Request.answer_congr rfl rfl hhonest.family_eq rfl, ?_⟩
  intro privateKey hprivate
  have hpublic := hhonest.publicKey_eq privateKey hprivate
  refine Request.answer_congr rfl rfl ?_ hpublic.symm
  rw [hhonest.family_eq, ← hpublic]
  exact PrivateKey.family_publicKey privateKey

/-- The header of signed tokens is plain. -/
theorem CompactToken.exists_plainHeader_signingHeader (algorithm : String) :
    ∃ header, PlainHeader (jsonSegment (signingHeader algorithm)) header
      ∧ entry? header "alg" = some (.string (Text.ofString algorithm)) := by
  obtain ⟨header, hheader⟩ : ∃ header, signingHeader algorithm = .object header := ⟨_, rfl⟩
  have hread := Json.decode_compact (lossless_signingHeader algorithm)
  obtain rfl := Json.object.inj hheader
  refine ⟨_, ⟨⟨_, decode?_jsonSegment _, hread⟩, rfl, rfl, rfl, ?_⟩, rfl⟩
  intro value hvalue
  exact ⟨_, (Option.some.inj hvalue).symm⟩

/-- The RSA algorithms do not accept an empty signature. -/
theorem SigningMethod.not_accepts_nil {method : SigningMethod} (hrsa : method.family = .rsa)
    (key : PublicKey) (input : Bytes) : ¬method.Accepts key input [] := by
  have hverify (key : Rsa.PublicKey) (hash : Rsa.Hash) : Rsa.verify key hash input [] = false := by
    simp [Rsa.verify, Rsa.PublicKey.size]
  intro h
  cases h with
  | edDSA _ => contradiction
  | rs256 h => exact absurd h (by simp [hverify])
  | rs384 h => exact absurd h (by simp [hverify])
  | rs512 h => exact absurd h (by simp [hverify])

/-- A token for Ed25519 is refused under an RSA key for the family of the key. A token for RSA with
an empty signature is refused for the signature, though its payload is no JSON. The public half
counts as the pair. -/
theorem staged_mersennePair :
    Request.payload.answer (.bytes (tokenBytes (jsonSegment (signingHeader "EdDSA")) [] []))
        mersennePair.publicArgument (.mk 0) = .error (.token (.keyTypeMismatch .ed25519))
    ∧ Request.payload.answer (.bytes (tokenBytes (jsonSegment (signingHeader "RS256")) [] []))
        mersennePair.publicArgument (.mk 0)
          = .error (.token (.signatureInvalid (Text.ofString "RS256")))
    ∧ ∀ token, Request.payload.answer token mersennePair.publicArgument (.mk 0)
        = Request.payload.answer token (.pair mersennePair) (.mk 0) := by
  obtain ⟨-, hstaged, -, hsame⟩ := verification_staged
  obtain ⟨edwards, hedwards, hedDSA⟩ := CompactToken.exists_plainHeader_signingHeader "EdDSA"
  obtain ⟨rsa, hrsa, hrs256⟩ := CompactToken.exists_plainHeader_signingHeader "RS256"
  have hkey : KeyPair.ofArgument mersennePair.publicArgument
      = .ok (.ofPublic mersennePair.publicKey) := rfl
  have hhonest : mersennePair.IsHonest := KeyPair.isHonest_ofPrivate _
  refine ⟨?_, ?_, fun token => (hsame mersennePair hhonest .payload token (.mk 0)).1⟩
  · exact ((hstaged _ _ _ _ hkey hedwards).mismatch_iff _ [] [] ⟨rfl, rfl, rfl⟩ .payload (.mk 0)
      .ed25519).mpr ⟨.edDSA, hedDSA, rfl, by decide⟩
  · exact (hstaged _ _ _ _ hkey hrsa).signatureInvalid _ [] [] ⟨rfl, rfl, rfl⟩ .rs256 [] hrs256 rfl
      rfl rfl (SigningMethod.not_accepts_nil rfl _ _) .payload (.mk 0)

end FleetToken
