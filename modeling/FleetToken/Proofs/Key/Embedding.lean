import FleetToken.Key.Loading
import FleetToken.Proofs.Bytes.Hex
import FleetToken.Proofs.Key.Container

/-!
# Public keys as text

An Ed25519 key is written as digits and an RSA key as a document. No document is taken for digits,
since it begins with a hyphen, and digits are never tried as a document. So every public key is
read back from its text, and no two public keys have the same text.

## Main definitions

* `LoadedKey.Holds`: a key object and its public half.
* `Text.IsKeyDigits`: a text of sixty-four hexadecimal digits.

## Main results

* `PublicKey.decode_encode`: a public key is read back from its text.
* `PublicKey.encode_injective`: no two public keys have the same text.
* `PublicKey.exists_decode_of_isKeyDigits`: digits are those of an Ed25519 key.
-/

namespace FleetToken

/-! ## Digits -/

/-- The text has sixty-four hexadecimal digits and nothing else. -/
structure Text.IsKeyDigits (t : Text) : Prop where
  length_eq : t.length = 64
  mem : ∀ c ∈ t, c ∈ hexAlphabet

/-- A text is taken for the digits of a key if it is sixty-four of them. -/
theorem KeyMaterial.isEncodedKeyText_iff {t : Text} :
    isEncodedKeyText t = true ↔ t.IsKeyDigits := by
  rw [isEncodedKeyText, Bool.and_eq_true, beq_iff_eq, List.all_eq_true]
  simp only [CodePoint.isSome_hexValue?_iff]
  exact ⟨fun h => ⟨h.1, h.2⟩, fun h => ⟨h.length_eq, h.mem⟩⟩

/-- The digits of a key are sixty-four. -/
theorem Ed25519.PublicKey.isKeyDigits_encode (key : Ed25519.PublicKey) :
    (Hex.encode key.bytes).IsKeyDigits where
  length_eq := by rw [Hex.length_encode, key.length_eq, keySize]
  mem _ hc := CodePoint.isSome_hexValue?_iff.mp (Hex.isSome_hexValue?_of_mem_encode hc)

theorem Ed25519.PublicKey.ofBytes?_eq_some {bytes : Bytes} (h : bytes.length = keySize) :
    ofBytes? bytes = some ⟨bytes, h⟩ :=
  dif_pos h

/-! ## Documents -/

/-- A document is no digits: it begins with a hyphen. -/
theorem Rsa.PublicKey.not_isKeyDigits_toPem (key : Rsa.PublicKey) :
    ¬(Text.ofAscii key.toPem).IsKeyDigits := by
  intro h
  have hhyphen : CodePoint.ofChar '-' ∈ Text.ofAscii key.toPem := by
    refine List.mem_map.mpr ⟨0x2D, ?_, rfl⟩
    have hblock := Pem.Block.encode_eq key.toBlock
    rw [show key.toPem = key.toBlock.encode from rfl, hblock]
    exact List.mem_append_left _ (by decide)
  exact absurd (h.mem _ hhyphen) (by decide)

/-- The pair of a key is made from the text of its document. -/
theorem KeyPair.ofPem_toPem {key : Rsa.PublicKey} (h : key.Fits) :
    ofPem (.text (Text.ofAscii key.toPem)) = .ok (.ofPublic (.rsa key)) := by
  have hbytes : (KeyMaterial.text (Text.ofAscii key.toPem)).bytes? = some key.toPem :=
    Text.encodeUtf8?_ofAscii fun b hb => Pem.lt_of_mem_encode (LoadedKey.isPlain_toBlock key) hb
  have hmarker : Bytes.includes Pem.marker key.toPem = true := Pem.includes_marker key.toBlock
  simp only [ofPem, hbytes, ofPemBytes, hmarker, ↓reduceIte, LoadedKey.ofPem_toPem h]

/-! ## Public keys -/

namespace PublicKey

variable {key other : PublicKey}

/-- A public key is read back from its text. -/
theorem decode_encode (h : (LoadedKey.publicHalf key).Fits) : decode key.encode = .ok key := by
  cases key with
  | ed25519 key =>
    have hdigits : KeyMaterial.isEncodedKeyText (Hex.encode key.bytes) = true :=
      KeyMaterial.isEncodedKeyText_iff.mpr key.isKeyDigits_encode
    have hkey : ((Hex.decode (Hex.encode key.bytes)).toOption).bind Ed25519.PublicKey.ofBytes?
        = some key := by
      rw [Hex.decode_encode]
      exact Ed25519.PublicKey.ofBytes?_eq_some key.length_eq
    rw [encode, decode, if_pos hdigits, hkey]
  | rsa key =>
    have hdocument : ¬KeyMaterial.isEncodedKeyText (Text.ofAscii key.toPem) = true :=
      mt KeyMaterial.isEncodedKeyText_iff.mp key.not_isKeyDigits_toPem
    have hencode : encode (.rsa key) = Text.ofAscii key.toPem := rfl
    rw [hencode, decode, if_neg hdocument, KeyPair.ofPem_toPem (h key rfl)]
    rfl

/-- No two public keys have the same text, since each is read back from its own. -/
theorem encode_injective (hkey : (LoadedKey.publicHalf key).Fits)
    (hother : (LoadedKey.publicHalf other).Fits) (h : key.encode = other.encode) :
    key = other := by
  have hdecode := decode_encode hkey
  rw [h, decode_encode hother] at hdecode
  exact (Except.ok.inj hdecode).symm

/-- Digits are read as an Ed25519 key, and that key is written with them in lower case. -/
theorem exists_decode_of_isKeyDigits {t : Text} (h : t.IsKeyDigits) :
    ∃ key, decode t = .ok (.ed25519 key) ∧ encode (.ed25519 key) = t.toAsciiLower := by
  have hsize : t.length = 2 * Ed25519.keySize := h.length_eq
  obtain ⟨bytes, hbytes, hlength, hencode⟩ := Hex.exists_decode_of_digits hsize fun c hc =>
    CodePoint.isSome_hexValue?_iff.mpr (h.mem c hc)
  refine ⟨⟨bytes, hlength⟩, ?_, hencode⟩
  rw [decode, if_pos (KeyMaterial.isEncodedKeyText_iff.mpr h), hbytes]
  simp only [Except.toOption, Option.bind_some, Ed25519.PublicKey.ofBytes?_eq_some hlength]

end PublicKey

/-! ## Key objects -/

/-- A key object and its public half. An RSA key is in a document. -/
structure LoadedKey.Holds (loaded : LoadedKey) (key : PublicKey) : Prop where
  /-- The public half of the object, which is of one of the two families. -/
  publicKey_eq : loaded.publicKey? = some key
  /-- RSA keys come from documents. -/
  isLoadable : key.family = .rsa → loaded.IsLoadable

namespace LoadedKey

variable {loaded : LoadedKey} {key : PublicKey}

/-- A loaded key fits if it holds a public key that does. -/
theorem Holds.fits (h : loaded.Holds key) : (publicHalf key).Fits := by
  intro rsaKey hkey
  obtain rfl := Option.some.inj hkey
  exact (h.isLoadable rfl).fits rsaKey h.publicKey_eq

/-- An object is written as its public half. -/
theorem encodePublic_bare (h : loaded.publicKey? = some key) :
    (KeyArgument.bare loaded).encodePublic = .ok key.encode := by
  cases loaded with
  | publicHalf other =>
    obtain rfl := Option.some.inj h
    rfl
  | privateHalf other =>
    obtain rfl := Option.some.inj h
    rfl
  | foreign kind half => contradiction

end LoadedKey

end FleetToken
