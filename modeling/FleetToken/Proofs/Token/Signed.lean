import FleetToken.Proofs.Crypto.Rsa
import FleetToken.Proofs.Json.RoundTrip
import FleetToken.Proofs.Token.Authenticity
import FleetToken.Token.Signing

/-!
# Signed tokens are authentic

A payload that JSON text can carry is signed by every pair whose halves belong together, and the
token is authentic under the public half of the pair: it gives back the payload member by member.

## Main definitions

* `KeyPair.VerifiesItself`: the private half signs everything, and the public half accepts it.
* `Text.Carries`: a token text has a payload as its second segment.

## Main results

* `KeyPair.verifiesItself_ofPrivate_rsa`: the pair of a genuine RSA key verifies itself.
* `KeyPair.VerifiesItself.exists_token`: payloads are signed, and authentic under the public half.
* `Claims.sign_eq_ok_iff`: the claims that are signed.
-/

namespace FleetToken

/-! ## Pairs whose halves belong together -/

/-- The algorithm that a pair of a family signs with. -/
def KeyFamily.signingMethod : KeyFamily → SigningMethod
  | .ed25519 => .edDSA
  | .rsa => .rs256

/-- The method of a family has the name of its algorithm. -/
theorem KeyFamily.name_signingMethod (family : KeyFamily) :
    family.signingMethod.name = family.algorithm := by
  cases family with
  | ed25519 => rfl
  | rsa => rfl

theorem KeyFamily.family_signingMethod (family : KeyFamily) :
    family.signingMethod.family = family := by
  cases family with
  | ed25519 => rfl
  | rsa => rfl

/-- The private half of a pair signs everything under the label of the pair, and the primitive
accepts its signatures under the public half. -/
def KeyPair.VerifiesItself (pair : KeyPair) : Prop :=
  ∃ privateKey, pair.privateKey = some privateKey ∧ ∀ input, ∃ signature,
    privateKey.sign pair.family input = .ok signature
      ∧ pair.family.signingMethod.Accepts pair.publicKey input signature

/-- The public half of such a pair is of the family that the pair is labelled with. -/
theorem KeyPair.VerifiesItself.family_eq {pair : KeyPair} (h : pair.VerifiesItself) :
    pair.publicKey.family = pair.family := by
  obtain ⟨privateKey, -, hsign⟩ := h
  obtain ⟨signature, -, haccepts⟩ := hsign []
  rw [haccepts.family_eq, KeyFamily.family_signingMethod]

/-- The pair of a genuine RSA key with room for a digest verifies itself. -/
theorem KeyPair.verifiesItself_ofPrivate_rsa {key : Rsa.PrivateKey} (hkey : key.IsGenuine)
    (hsize : 62 ≤ key.publicKey.size) : (KeyPair.ofPrivate (.rsa key)).VerifiesItself := by
  refine ⟨.rsa key, rfl, fun input => ?_⟩
  obtain ⟨signature, hsignature⟩ := Rsa.exists_sign? hsize input
  refine ⟨signature, ?_, .rs256 (Rsa.verify_of_sign? hkey hsignature)⟩
  simp [KeyPair.ofPrivate, PrivateKey.family, PrivateKey.sign, hsignature]

/-- A pair whose key has Mersenne primes. -/
def mersennePair : KeyPair :=
  .ofPrivate (.rsa Rsa.mersenneKey)

theorem mersennePair_verifiesItself : mersennePair.VerifiesItself :=
  KeyPair.verifiesItself_ofPrivate_rsa Rsa.mersenneKey_isGenuine Rsa.mersenneKey_size

/-! ## Written tokens -/

/-- The header of a signed token is read back as it was written. -/
theorem lossless_signingHeader (algorithm : String) : (signingHeader algorithm).Lossless := by
  refine Json.lossless_named [("alg", .string (Text.ofString algorithm)),
    ("typ", .string (Text.ofString "JWT"))] ?_ ?_
  · show [Text.ofString "alg", Text.ofString "typ"].Nodup
    decide
  · simpa using ⟨Json.Lossless.string (Text.unpaired_ofString algorithm),
      Json.Lossless.string (Text.unpaired_ofString "JWT")⟩

/-- A written segment is decoded to the text of its value. -/
theorem decode?_jsonSegment (value : Json) :
    Base64.decode? .url (jsonSegment value) = some value.compact.toUtf8 :=
  Base64.decode?_encode _

/-- A signed token is the text of its three segments. -/
theorem compactText_signingInput (header payload : Json) (signature : Bytes) :
    compactText (signingInput header payload) signature
      = .ofAscii (tokenBytes (jsonSegment header) (jsonSegment payload)
        (Base64.encode .url signature)) := by
  rw [compactText, signingInput, tokenBytes, List.append_assoc, List.cons_append]

/-- A token that is put together from a payload and a signature is read as the same parts. -/
theorem ofInput_compactText (algorithm : String) (payload : Members) (signature : Bytes) :
    ∃ header, CompactToken.entry? header "alg" = some (.string (Text.ofString algorithm))
      ∧ CompactToken.isDetached header = false
      ∧ CompactToken.ofInput (.text (compactText
          (signingInput (signingHeader algorithm) (.object payload)) signature))
        = .ok {
          header
          signingInput := signingInput (signingHeader algorithm) (.object payload)
          payload := (Json.object payload).compact.toUtf8
          signature } := by
  -- The header is known but for the name of the algorithm.
  obtain ⟨header, hheader⟩ : ∃ header, signingHeader algorithm = .object header := ⟨_, rfl⟩
  have halg : CompactToken.entry? header "alg" = some (.string (Text.ofString algorithm)) := by
    obtain rfl := Json.object.inj hheader
    rfl
  have hattached : CompactToken.isDetached header = false := by
    obtain rfl := Json.object.inj hheader
    rfl
  have hchecked : CompactToken.checkHeader header = .ok () := by
    obtain rfl := Json.object.inj hheader
    rfl
  refine ⟨header, halg, hattached, CompactToken.ofInput_text_eq_ok_iff.mpr
    ⟨jsonSegment (signingHeader algorithm), jsonSegment (.object payload),
      Base64.encode .url signature, compactText_signingInput _ _ _, ?_⟩⟩
  -- Each segment was written by the strict writer.
  refine ⟨⟨_, decode?_jsonSegment _, ?_⟩, decode?_jsonSegment _, Base64.decode?_encode _, rfl,
    ?_, hchecked⟩
  · rw [← hheader]
    exact Json.decode_compact (lossless_signingHeader algorithm)
  · rw [hattached]
    simp

/-- A payload is signed if its integers can be written and the private half signs the segments. -/
theorem PrivateKey.token_eq_ok_iff {key : PrivateKey} {family : KeyFamily} {payload : Members}
    {t : Text} : key.token family payload = .ok t ↔ (Json.object payload).isWritable = true
      ∧ ∃ signature, key.sign family
          (signingInput (signingHeader family.algorithm) (.object payload)) = .ok signature
        ∧ t = .ofAscii (tokenBytes (jsonSegment (signingHeader family.algorithm))
          (jsonSegment (.object payload)) (Base64.encode .url signature)) := by
  rw [token]
  cases (Json.object payload).isWritable with
  | false => simp
  | true =>
    simp only [Bool.not_true, Bool.false_eq_true, ↓reduceIte, pure_eq_ok, bind_eq_ok_iff,
      Except.ok.injEq, true_and, compactText_signingInput]
    simp only [eq_comm]

/-- A payload whose integers can be written is signed. Under every key whose public half and label
are those of the pair the token is authentic, with the payload that its JSON text is read as. -/
theorem KeyPair.VerifiesItself.exists_token {pair : KeyPair} (hpair : pair.VerifiesItself)
    {payload found : Members} (hwritable : (Json.object payload).isWritable = true)
    (hread : Json.decode (Json.object payload).compact.toUtf8 = .ok (.object found)) :
    ∃ privateKey t, pair.privateKey = some privateKey
      ∧ privateKey.token pair.family payload = .ok t
      ∧ ∀ key other, KeyPair.ofArgument key = .ok other → other.family = pair.family →
        other.publicKey = pair.publicKey → authenticatedPayload (.text t) key = .ok found := by
  obtain ⟨privateKey, hprivate, hsign⟩ := hpair
  -- The pair signs every input, and this one in particular.
  obtain ⟨signature, hsignature, haccepts⟩ :=
    hsign (signingInput (signingHeader pair.family.algorithm) (.object payload))
  obtain ⟨header, halg, hattached, hparts⟩ :=
    ofInput_compactText pair.family.algorithm payload signature
  refine ⟨privateKey, compactText (signingInput (signingHeader pair.family.algorithm)
    (.object payload)) signature, hprivate, ?_, fun key other hother hfamily hpublic => ?_⟩
  · exact PrivateKey.token_eq_ok_iff.mpr
      ⟨hwritable, signature, hsignature, compactText_signingInput _ _ _⟩
  · rw [authenticatedPayload_eq_ok_iff]
    refine ⟨_, other, pair.family.signingMethod, hparts, hother, ?_, ?_, hattached, ?_, hread⟩
    · rw [halg, KeyFamily.name_signingMethod]
    · rw [hfamily, KeyFamily.family_signingMethod]
    · rw [hpublic]
      exact haccepts

/-! ## Signed claims -/

/-- Claims are signed under a key with a private half, if they have a lifetime and a payload that
is signed. -/
theorem Claims.sign_eq_ok_iff {c : Claims} {key : KeyArgument} {zone : LocalZone} {t : Text} :
    c.sign key zone = .ok t ↔ ∃ pair privateKey payload, KeyPair.ofArgument key = .ok pair
      ∧ pair.privateKey = some privateKey ∧ c.envelope.checkLifetime = .ok ()
      ∧ c.payload zone = .ok payload ∧ privateKey.token pair.family payload = .ok t := by
  rw [sign, bind_eq_ok_iff]
  simp only [mapError_eq_ok_iff]
  constructor
  · rintro ⟨pair, hpair, hsigned⟩
    split at hsigned
    · contradiction
    · rename_i privateKey hprivate
      obtain ⟨⟨⟩, hlifetime, hsigned⟩ := bind_eq_ok_iff.mp hsigned
      obtain ⟨payload, hpayload, htoken⟩ := bind_eq_ok_iff.mp (mapError_eq_ok_iff.mp hsigned)
      exact ⟨pair, privateKey, payload, hpair, hprivate, hlifetime,
        mapError_eq_ok_iff.mp hpayload, htoken⟩
  · rintro ⟨pair, privateKey, payload, hpair, hprivate, hlifetime, hpayload, htoken⟩
    refine ⟨pair, hpair, ?_⟩
    simp only [hprivate, hlifetime, ok_bind, hpayload, mapError_ok, htoken]

/-- A token text has three segments in Base64, and the second one writes the payload. -/
def Text.Carries (t : Text) (payload : Members) : Prop :=
  ∃ header signature, t = .ofAscii (tokenBytes (Base64.encode .url header)
    (jsonSegment (.object payload)) (Base64.encode .url signature))

/-- A token carries the payload that it was signed with. -/
theorem PrivateKey.carries_of_token {key : PrivateKey} {family : KeyFamily} {payload : Members}
    {t : Text} (h : key.token family payload = .ok t) : t.Carries payload := by
  obtain ⟨-, signature, -, ht⟩ := token_eq_ok_iff.mp h
  exact ⟨_, signature, ht⟩

/-- A token that carries a payload is in ASCII. -/
theorem Text.Carries.isAscii {t : Text} {payload : Members} (h : t.Carries payload) :
    t.IsAscii := by
  obtain ⟨header, signature, rfl⟩ := h
  have hsegment (bytes : Bytes) : ∀ b ∈ Base64.encode .url bytes, b < 0x80 :=
    fun b hb => (Base64.isUrlByte_encode bytes b hb).lt
  exact Text.ofAscii_isAscii (tokenBytes_lt (hsegment _) (hsegment _) (hsegment _))

/-- Claims with a lifetime are signed by every pair that verifies itself, if they have a payload
whose integers can be written. -/
theorem KeyPair.VerifiesItself.exists_sign {pair : KeyPair} (hpair : pair.VerifiesItself)
    {c : Claims} {zone : LocalZone} {payload : Members}
    (hlifetime : c.envelope.checkLifetime = .ok ()) (hpayload : c.payload zone = .ok payload)
    (hwritable : (Json.object payload).isWritable = true) :
    ∃ t, c.sign (.pair pair) zone = .ok t ∧ t.Carries payload := by
  obtain ⟨privateKey, hprivate, hsign⟩ := hpair
  obtain ⟨signature, hsignature, -⟩ := hsign _
  have htoken := PrivateKey.token_eq_ok_iff.mpr ⟨hwritable, signature, hsignature, rfl⟩
  exact ⟨_, Claims.sign_eq_ok_iff.mpr ⟨pair, privateKey, payload, rfl, hprivate, hlifetime,
    hpayload, htoken⟩, PrivateKey.carries_of_token htoken⟩

/-- The public half of a pair alone, as it is handed in for verification. -/
def KeyPair.publicArgument (pair : KeyPair) : KeyArgument :=
  .bare (.publicHalf pair.publicKey)

/-- A payload that JSON text can carry is signed, and the token gives it back under the public half
of the pair. -/
theorem KeyPair.VerifiesItself.exists_token_publicArgument {pair : KeyPair}
    (hpair : pair.VerifiesItself) {payload : Members} (hpayload : (Json.object payload).Lossless) :
    ∃ privateKey t, pair.privateKey = some privateKey
      ∧ privateKey.token pair.family payload = .ok t
      ∧ authenticatedPayload (.text t) pair.publicArgument = .ok payload := by
  obtain ⟨privateKey, t, hprivate, htoken, hauthentic⟩ :=
    hpair.exists_token hpayload.isWritable (Json.decode_compact hpayload)
  exact ⟨privateKey, t, hprivate, htoken, hauthentic _ _ rfl hpair.family_eq rfl⟩

/-- A payload that is read as it is written is that of a verified token as long as the time allows
it. -/
theorem exists_verified_mersennePair {payload : Members}
    (hwritable : (Json.object payload).isWritable = true)
    (hread : Json.decode (Json.object payload).compact.toUtf8 = .ok (.object payload))
    (clock : Clock) (hchecked : checkPayload payload clock = .ok ()) :
    ∃ t, verifiedPayload (.text t) mersennePair.publicArgument clock = .ok payload := by
  obtain ⟨privateKey, t, -, -, hauthentic⟩ :=
    mersennePair_verifiesItself.exists_token hwritable hread
  exact ⟨t, verifiedPayload_eq_ok_iff.mpr
    ⟨hauthentic _ _ rfl mersennePair_verifiesItself.family_eq rfl, hchecked⟩⟩

end FleetToken
