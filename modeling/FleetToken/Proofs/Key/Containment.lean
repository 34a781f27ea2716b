import FleetToken.Proofs.Key.SeedText
import FleetToken.Proofs.Key.UnknownAlgorithm

/-!
# Failures of loaders

What goes wrong with key material should be an error on it: it cannot be read, a seed has a wrong
length, or a key is of a kind that is not supported. Two things are overlooked. A text with a lone
surrogate has no bytes in which a document could be looked for. And a document that is well formed
but names an algorithm or a curve that is not known is given up by its reader in a way of its own.
Seeds are never overlooked, and what goes wrong when a file is read is passed on.

## Main definitions

* `KeyContained`: an outcome that callers of loaders are prepared for.
* `KeyMaterial.IsForeseen`: the material has bytes, and they name nothing unknown.
* `KeyMaterial.ContainedIffForeseen`: what a loader makes of material, foreseen or not.

## Main results

* `KeyPair.containedIffForeseen_ofPem`, `KeyPair.containedIffForeseen_ofFile`: the material and the
  file contents that the loaders of documents are prepared for.
* `KeyMaterial.loading_contained_iff`: the same for all loaders.
-/

namespace FleetToken

/-! ## Outcomes -/

/-- Whether a failure is an error on key material. -/
def Failure.isKeyError : Failure → Bool
  | .token (.invalidKeyMaterial _) => true
  | .token .invalidSeedLength => true
  | .token (.unsupportedKeyType _) => true
  | _ => false

/-- An outcome that callers of loaders are prepared for: a result, or an error on key material. -/
def KeyContained {α : Type} : Except Failure α → Prop
  | .ok _ => True
  | .error failure => failure.isKeyError = true

/-- Changing the result does not matter. -/
theorem keyContained_map_iff {α β : Type} {x : Except Failure α} {f : α → β} :
    KeyContained (x.map f) ↔ KeyContained x := by
  cases x with
  | ok a => exact Iff.rfl
  | error failure => exact Iff.rfl

/-- An outcome that callers are not prepared for: a text without bytes, or a key of an algorithm or
on a curve that is not known. -/
def IsOverlooked {α : Type} (outcome : Except Failure α) : Prop :=
  outcome = .error .unencodableText ∨ outcome = .error .unsupportedAlgorithm

/-- A failure that is overlooked stays one. -/
theorem IsOverlooked.map {α β : Type} {x : Except Failure α} (h : IsOverlooked x) (f : α → β) :
    IsOverlooked (x.map f) := by
  rcases h with rfl | rfl
  · exact .inl rfl
  · exact .inr rfl

/-! ## Seeds -/

namespace KeyMaterial

variable {m : KeyMaterial}

/-- The text of a seed is refused with an error of keys. -/
theorem keyContained_decodeSeed (m : KeyMaterial) :
    KeyContained (m.decodeSeed.mapError .token) := by
  cases hdecode : m.decodeSeed with
  | ok bytes => trivial
  | error error =>
    obtain ⟨fault, rfl⟩ := invalidKeyMaterial_of_decodeSeed hdecode
    rfl

/-- So is any other material for a seed. -/
theorem keyContained_seed (m : KeyMaterial) : KeyContained (m.seed.mapError .token) := by
  rw [seed]
  cases hdecode : m.decodeSeed with
  | ok bytes =>
    rw [ok_bind, Ed25519.Seed.ofBytes]
    split
    · trivial
    · rfl
  | error error =>
    obtain ⟨fault, rfl⟩ := invalidKeyMaterial_of_decodeSeed hdecode
    rfl

end KeyMaterial

/-! ## Documents -/

/-- The loaders are prepared for the material: it has bytes, and these are no document that names an
algorithm or a curve that is not known. -/
def KeyMaterial.IsForeseen (m : KeyMaterial) : Prop :=
  ∃ document, m.bytes? = some document
    ∧ ¬(Pem.marker <:+: document ∧ LoadedKey.IsUnknownDocument document)

/-- The outcome is contained if and only if the loaders are prepared for the material, and
overlooked otherwise. -/
structure KeyMaterial.ContainedIffForeseen {α : Type} (m : KeyMaterial)
    (outcome : Except Failure α) : Prop where
  contained_iff : KeyContained outcome ↔ m.IsForeseen
  overlooked : ¬m.IsForeseen → IsOverlooked outcome

/-- What is done with a loaded key later does not change which materials are foreseen. -/
theorem KeyMaterial.ContainedIffForeseen.map {α β : Type} {m : KeyMaterial}
    {outcome : Except Failure α} (h : m.ContainedIffForeseen outcome) (f : α → β) :
    m.ContainedIffForeseen (outcome.map f) where
  contained_iff := keyContained_map_iff.trans h.contained_iff
  overlooked hunforeseen := (h.overlooked hunforeseen).map f

/-- Bytes are foreseen unless they are a document that names what is not known. -/
theorem KeyMaterial.isForeseen_bytes_iff {contents : Bytes} : (bytes contents).IsForeseen ↔
    ¬(Pem.marker <:+: contents ∧ LoadedKey.IsUnknownDocument contents) := by
  simp [IsForeseen, bytes?]

/-- Material without a mark is foreseen, for no document is looked for in it. -/
theorem KeyMaterial.isForeseen_of_notMem {m : KeyMaterial} {document : Bytes}
    (hbytes : m.bytes? = some document) (h : 0x2D ∉ document) : m.IsForeseen :=
  ⟨document, hbytes, fun hunknown => h (hunknown.1.subset (by decide))⟩

namespace KeyPair

/-- The reader of a marked document gives up if and only if it names something unknown. All other
faults are reported as errors on key material. -/
theorem containedIffForeseen_ofPemBytes (document : Bytes) :
    (KeyMaterial.bytes document).ContainedIffForeseen (ofPemBytes document) := by
  by_cases hmarker : Pem.marker <:+: document
  · have hforeseen : (KeyMaterial.bytes document).IsForeseen ↔
        LoadedKey.ofPem document ≠ .error .unsupported := by
      rw [KeyMaterial.isForeseen_bytes_iff, Ne, LoadedKey.ofPem_eq_unsupported_iff]
      simp [hmarker]
    rw [ofPemBytes, if_pos (Bytes.includes_iff.mpr hmarker)]
    cases hloaded : LoadedKey.ofPem document with
    | ok loaded =>
      have hknown : (KeyMaterial.bytes document).IsForeseen := hforeseen.mpr (by simp [hloaded])
      refine ⟨iff_of_true ?_ hknown, fun h => absurd hknown h⟩
      -- Whatever was loaded is a pair, or is refused as another kind of key.
      rcases loaded with (key | key) | (key | key) | - <;> trivial
    | error fault =>
      rw [hloaded] at hforeseen
      cases fault with
      | malformed | encrypted =>
        have hknown : (KeyMaterial.bytes document).IsForeseen := hforeseen.mpr (by simp)
        exact ⟨iff_of_true rfl hknown, fun h => absurd hknown h⟩
      | unsupported =>
        exact ⟨iff_of_false Bool.false_ne_true fun h => hforeseen.mp h rfl, fun _ => .inr rfl⟩
  · -- Without the mark nothing is parsed.
    have hknown : (KeyMaterial.bytes document).IsForeseen :=
      KeyMaterial.isForeseen_bytes_iff.mpr fun h => hmarker h.1
    rw [ofPemBytes, if_neg (mt Bytes.includes_iff.mp hmarker)]
    exact ⟨iff_of_true rfl hknown, fun h => absurd hknown h⟩

/-- Text without bytes is overlooked, and apart from that bytes decide. -/
theorem containedIffForeseen_ofPem (m : KeyMaterial) : m.ContainedIffForeseen (ofPem m) := by
  rw [ofPem]
  cases hbytes : m.bytes? with
  | none =>
    have hunforeseen : ¬m.IsForeseen := by
      simp [KeyMaterial.IsForeseen, hbytes]
    exact ⟨iff_of_false Bool.false_ne_true hunforeseen, fun _ => .inl rfl⟩
  | some document =>
    have hforeseen : m.IsForeseen ↔ (KeyMaterial.bytes document).IsForeseen := by
      rw [KeyMaterial.isForeseen_bytes_iff]
      simp [KeyMaterial.IsForeseen, hbytes]
    have hdocument := containedIffForeseen_ofPemBytes document
    exact ⟨hdocument.contained_iff.trans hforeseen.symm,
      fun h => hdocument.overlooked (mt hforeseen.mpr h)⟩

/-- Contents of key files are seeds in plain form, or documents. -/
theorem containedIffForeseen_ofFile (contents : Bytes) :
    (KeyMaterial.bytes contents).ContainedIffForeseen (ofFile contents) := by
  by_cases hplain : (Text.ofAscii contents).IsPlainSeed
  · obtain ⟨seed, hseed⟩ := KeyMaterial.exists_seed_of_isPlainSeed hplain
    have hloaded : ofFile contents = .ok (.ofPrivate (.ed25519 seed)) :=
      (ofFile_ed25519_iff.mpr ⟨hplain, seed, hseed, rfl⟩).1
    have hforeseen : (KeyMaterial.bytes contents).IsForeseen :=
      KeyMaterial.isForeseen_of_notMem rfl (hyphen_notMem fun c hc =>
        (hplain.isGap_or_mem hc).imp_left CodePoint.isBlank_of_isGap)
    rw [hloaded]
    exact ⟨iff_of_true trivial hforeseen, fun h => absurd hforeseen h⟩
  · rw [ofFile_of_not_isPlainSeed hplain]
    exact containedIffForeseen_ofPemBytes contents

end KeyPair

/-! ## Public keys -/

namespace PublicKey

/-- Digits have no hyphen either. -/
theorem isForeseen_of_isKeyDigits {t : Text} (h : t.IsKeyDigits) :
    (KeyMaterial.text t).IsForeseen := by
  have hascii : t.IsAscii := fun c hc =>
    CodePoint.lt_of_hexValue? (CodePoint.isSome_hexValue?_iff.mpr (h.mem c hc))
  refine KeyMaterial.isForeseen_of_notMem (Text.encodeUtf8?_of_ascii hascii) ?_
  rw [Text.toUtf8_eq_map hascii]
  intro hmem
  obtain ⟨c, hc, hbyte⟩ := List.mem_map.mp hmem
  have hdigit (d : CodePoint) (hd : d ∈ hexAlphabet) : UInt8.ofNat d.val ≠ 0x2D := by
    revert d
    decide
  exact hdigit c (h.mem c hc) hbyte

/-- Decoding the text of a key fails with an error of keys on foreseen texts only. -/
theorem containedIffForeseen_decode (encoded : Text) :
    (KeyMaterial.text encoded).ContainedIffForeseen (decode encoded) := by
  by_cases hdigits : encoded.IsKeyDigits
  · obtain ⟨key, hkey, -⟩ := exists_decode_of_isKeyDigits hdigits
    have hforeseen := isForeseen_of_isKeyDigits hdigits
    rw [hkey]
    exact ⟨iff_of_true trivial hforeseen, fun h => absurd hforeseen h⟩
  · rw [decode, if_neg (mt KeyMaterial.isEncodedKeyText_iff.mp hdigits)]
    exact (KeyPair.containedIffForeseen_ofPem (.text encoded)).map (·.publicKey)

end PublicKey

/-! ## All loaders -/

/-- The loader of documents and the decoder of public keys are contained for the material that they
are prepared for, and so is the loader of key files for the contents of a file. Otherwise a text has
no bytes, or a key is of an algorithm or on a curve that is not known. Seeds are always contained. A
file that cannot be read fails all its loaders in the way that reading it fails. -/
theorem KeyMaterial.loading_contained_iff (m : KeyMaterial) (encoded : Text) (store : FileStore)
    (path : Text) (message : Bytes) :
    m.ContainedIffForeseen (KeyPair.ofPem m)
    ∧ KeyContained (m.decodeSeed.mapError .token)
    ∧ (KeyMaterial.text encoded).ContainedIffForeseen (PublicKey.decode encoded)
    ∧ (∀ failure, store.read path = .error failure → store.keyPair path = .error failure
      ∧ store.seedPair path = .error failure ∧ store.signWithSeed path message = .error failure)
    ∧ ∀ contents, store.read path = .ok contents →
      (KeyMaterial.bytes contents).ContainedIffForeseen (store.keyPair path)
      ∧ KeyContained (store.seedPair path) ∧ KeyContained (store.signWithSeed path message) := by
  refine ⟨KeyPair.containedIffForeseen_ofPem m, m.keyContained_decodeSeed,
    PublicKey.containedIffForeseen_decode encoded, fun failure hread => ?_,
    fun contents hread => ?_⟩
  · rw [FileStore.keyPair, FileStore.seedPair, FileStore.signWithSeed, FileStore.seed, hread]
    exact ⟨rfl, rfl, rfl⟩
  · rw [FileStore.keyPair, FileStore.seedPair, FileStore.signWithSeed, FileStore.seed, hread,
      ok_bind, ok_bind, keyContained_map_iff, keyContained_map_iff]
    exact ⟨KeyPair.containedIffForeseen_ofFile contents, keyContained_seed _, keyContained_seed _⟩

/-- A document with a public key of a kind that is of no use for tokens. -/
def foreignDocument : Bytes :=
  Bytes.ofAscii ("-----BEGIN PUBLIC KEY-----\n"
    ++ "MCowBQYDK2VuAyEAAAAAAAAAAAAAAAAAAAAAAAAAAAAAAAAAAAAAAAAAAAA=\n"
    ++ "-----END PUBLIC KEY-----\n")

/-- The loaders are prepared for it, in a file and elsewhere, and for a file that is not there. -/
theorem KeyMaterial.keyContained_foreignDocument :
    KeyContained (KeyPair.ofPem (.bytes foreignDocument))
    ∧ KeyContained ((FileStore.sample foreignDocument).keyPair FileStore.samplePath)
    ∧ FileStore.empty.keyPair FileStore.samplePath = .error (.file .notFound) := by
  have hloaded : LoadedKey.ofPem foreignDocument = .ok (.foreign .x25519 .publicHalf) := by
    decide +kernel
  -- The algorithm is known to the library, though not of use for tokens.
  have hknown : ¬LoadedKey.IsUnknownDocument foreignDocument := by
    rw [← LoadedKey.ofPem_eq_unsupported_iff, hloaded]
    simp
  have hforeseen : (KeyMaterial.bytes foreignDocument).IsForeseen :=
    isForeseen_bytes_iff.mpr fun h => hknown h.2
  obtain ⟨hpem, -, -, -, hfile⟩ := loading_contained_iff (.bytes foreignDocument) []
    (FileStore.sample foreignDocument) FileStore.samplePath []
  obtain ⟨-, -, -, hmissing, -⟩ := loading_contained_iff (.bytes foreignDocument) []
    FileStore.empty FileStore.samplePath []
  have hread : (FileStore.sample foreignDocument).read FileStore.samplePath
      = .ok foreignDocument := by
    decide +kernel
  obtain ⟨hkeyPair, -, -⟩ := hfile foreignDocument hread
  refine ⟨?_, ?_, (hmissing _ rfl).1⟩
  · rw [hpem.contained_iff]
    exact hforeseen
  · rw [hkeyPair.contained_iff]
    exact hforeseen

/-- A document with a public key of an algorithm that is not known. -/
def unknownDocument : Bytes :=
  Bytes.ofAscii ("-----BEGIN PUBLIC KEY-----\n"
    ++ "MAkwBAYCKgMDAQA=\n"
    ++ "-----END PUBLIC KEY-----\n")

/-- Not all key material is contained: half of a surrogate pair is not, nor is that document. -/
theorem KeyMaterial.not_contained_loading :
    ¬KeyContained (KeyPair.ofPem (.text [.ofNat 0xD800]))
    ∧ ¬KeyContained (PublicKey.decode [.ofNat 0xD800])
    ∧ ¬KeyContained (KeyPair.ofPem (.bytes unknownDocument))
    ∧ ¬KeyContained ((FileStore.sample unknownDocument).keyPair FileStore.samplePath) := by
  have hloaded : LoadedKey.ofPem unknownDocument = .error .unsupported := by
    decide +kernel
  have hmarker : Bytes.includes Pem.marker unknownDocument = true := by
    decide +kernel
  have hfails : KeyPair.ofPemBytes unknownDocument = .error .unsupportedAlgorithm := by
    rw [KeyPair.ofPemBytes, if_pos hmarker, hloaded]
    rfl
  have hplain : (KeyMaterial.bytes (trimAsciiSpace unknownDocument)).isEncodedKey = false := by
    decide +kernel
  have hread : (FileStore.sample unknownDocument).read FileStore.samplePath
      = .ok unknownDocument := by
    decide +kernel
  refine ⟨Bool.false_ne_true, Bool.false_ne_true, ?_, ?_⟩
  · have hsame : KeyPair.ofPem (.bytes unknownDocument) = KeyPair.ofPemBytes unknownDocument := rfl
    rw [hsame, hfails]
    exact Bool.false_ne_true
  · rw [FileStore.keyPair, hread, ok_bind, KeyPair.ofFile, if_neg (by simp [hplain]), hfails]
    exact Bool.false_ne_true

end FleetToken
