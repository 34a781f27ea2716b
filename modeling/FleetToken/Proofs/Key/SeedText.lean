import FleetToken.Proofs.Key.SeedFile

/-!
# Seed text

A reader that has to tell a seed from a document counts characters, and the decoder takes digits two
by two and passes over white space. They agree on material of sixty-four characters: half as many
bytes can only come from digits that fill all of it. The decoder has no opinion on the number of
bytes; seed files do.

## Main definitions

* `KeyMaterial.length`: the code points of a text, or the bytes of a file.
* `KeyMaterial.IsHexOf`: the digits of some bytes with blanks around them.

## Main results

* `KeyMaterial.decodeSeed_eq_ok_iff`: what is decoded.
* `KeyMaterial.isEncodedKey_iff`: what is recognised is what decodes to a seed without a blank.
* `KeyMaterial.seedText_recognized`: recognition, decoding, and the lengths that are refused.
-/

namespace FleetToken

/-! ## Material and its text -/

namespace KeyMaterial

/-- The number of code points of a text, or of the bytes of a file. -/
def length : KeyMaterial → Nat
  | .text t => t.length
  | .bytes b => b.length

/-- The material holds the digits of some bytes, each in either letter case, with blanks around
them. -/
def IsHexOf (m : KeyMaterial) (bytes : Bytes) : Prop :=
  ∃ front digits back : Text, m.text? = some (front ++ digits ++ back)
    ∧ digits.toAsciiLower = Hex.encode bytes
    ∧ (∀ c ∈ front, c.isBlank = true) ∧ ∀ c ∈ back, c.isBlank = true

variable {m : KeyMaterial} {t : Text} {bytes : Bytes}

/-- ASCII bytes have one code point each. -/
theorem length_of_text? (h : m.text? = some t) : m.length = t.length := by
  cases m with
  | text t' =>
    obtain rfl := Option.some.inj h
    rfl
  | bytes b =>
    obtain ⟨-, htext⟩ := Option.ite_none_right_eq_some.mp h
    rw [← Option.some.inj htext, List.length_map]
    rfl

/-- Material is taken for the digits of a key if it is a text of sixty-four of them. -/
theorem isEncodedKey_eq_true_iff :
    m.isEncodedKey = true ↔ ∃ t, m.text? = some t ∧ t.IsKeyDigits := by
  simp only [isEncodedKey, Option.any_eq_true, isEncodedKeyText_iff]

/-! ## Decoding -/

/-- Bytes are decoded from what is left of a text without the blanks around it. -/
theorem decodeSeed_eq_ok_iff : m.decodeSeed = .ok bytes ↔
    ∃ t, m.text? = some t ∧ t.trim ≠ [] ∧ Hex.decode t.trim = .ok bytes := by
  rw [decodeSeed]
  cases m.text? with
  | none => simp
  | some t =>
    by_cases hempty : t.trim = []
    · simp [hempty]
    · simp [hempty, mapError_eq_ok_iff]

/-- All that is wrong with material that is not decoded is that it is no hexadecimal text. -/
theorem invalidKeyMaterial_of_decodeSeed {error : TokenError} (h : m.decodeSeed = .error error) :
    ∃ fault, error = .invalidKeyMaterial fault := by
  rw [decodeSeed] at h
  split at h
  · exact ⟨_, (Except.error.inj h).symm⟩
  · simp only at h
    split at h
    · exact ⟨_, (Except.error.inj h).symm⟩
    · obtain ⟨position, -, rfl⟩ := mapError_eq_error_iff.mp h
      exact ⟨_, rfl⟩

/-- Bytes are decoded from their digits with blanks around them. -/
theorem decodeSeed_of_isHexOf (hne : bytes ≠ []) (h : m.IsHexOf bytes) :
    m.decodeSeed = .ok bytes := by
  obtain ⟨front, digits, back, htext, hdigits, hfront, hback⟩ := h
  have htrim : (front ++ digits ++ back).trim = digits := by
    rw [Text.trim, Text.trimBy_append_append hfront hback]
    exact Text.trim_eq_self fun c hc => CodePoint.not_isBlank_of_mem_hexAlphabet
      (CodePoint.isSome_hexValue?_iff.mp (Hex.isSome_hexValue?_of_mem hdigits hc))
  have hsome : digits ≠ [] := by
    rintro rfl
    exact hne (Hex.encode_injective hdigits.symm)
  refine decodeSeed_eq_ok_iff.mpr ⟨_, htext, ?_, ?_⟩
  · rwa [htrim]
  · rw [htrim]
    exact Hex.decode_of_toAsciiLower hdigits

/-! ## Recognition -/

/-- Half as many bytes as characters are decoded from digits alone. The digits that are read are
among what is left of the text, so nothing has been left out. -/
theorem isKeyDigits_of_decode (hlength : t.length = 64) (hdecode : Hex.decode t.trim = .ok bytes)
    (hbytes : bytes.length = 32) : t.IsKeyDigits := by
  obtain ⟨front, back, ht, -, -⟩ := Text.exists_append_trimBy CodePoint.isBlank t
  have hsub : (t.trim.filter fun c => !Hex.isGap c).Sublist t := by
    refine List.filter_sublist.trans (List.IsInfix.sublist ⟨front, back, ?_⟩)
    exact ht.symm
  have hread : (t.trim.filter fun c => !Hex.isGap c) = t :=
    hsub.eq_of_length (by rw [Hex.length_of_decode hdecode, hbytes, hlength])
  refine ⟨hlength, fun c hc => ?_⟩
  rw [← hread, List.mem_filter, Bool.not_eq_true'] at hc
  have hdigit := Hex.isGap_or_isSome_of_decode hdecode c hc.1
  exact CodePoint.isSome_hexValue?_iff.mp (hdigit.resolve_left (by simp [hc.2]))

/-- Material is recognised if and only if it has sixty-four characters and decodes to thirty-two
bytes. -/
theorem isEncodedKey_iff : m.isEncodedKey = true ↔
    m.length = 64 ∧ ∃ bytes, m.decodeSeed = .ok bytes ∧ bytes.length = 32 := by
  rw [isEncodedKey_eq_true_iff]
  constructor
  · rintro ⟨t, htext, hdigits⟩
    -- Digits are no blanks, so that there is nothing to trim.
    have htrim : t.trim = t := Text.trim_eq_self fun c hc =>
      CodePoint.not_isBlank_of_mem_hexAlphabet (hdigits.mem c hc)
    have hlength : t.length = 2 * 32 := hdigits.length_eq
    obtain ⟨bytes, hdecode, hbytes, -⟩ := Hex.exists_decode_of_digits hlength fun c hc =>
      CodePoint.isSome_hexValue?_iff.mpr (hdigits.mem c hc)
    refine ⟨(length_of_text? htext).trans hdigits.length_eq, bytes,
      decodeSeed_eq_ok_iff.mpr ⟨t, htext, ?_, htrim.symm ▸ hdecode⟩, hbytes⟩
    rw [htrim]
    exact List.ne_nil_of_length_pos (by rw [hdigits.length_eq]; decide)
  · rintro ⟨hlength, bytes, hdecode, hbytes⟩
    obtain ⟨t, htext, -, hdecode⟩ := decodeSeed_eq_ok_iff.mp hdecode
    exact ⟨t, htext,
      isKeyDigits_of_decode ((length_of_text? htext).symm.trans hlength) hdecode hbytes⟩

/-! ## Seeds of other lengths -/

/-- A seed has a wrong length if and only if other than thirty-two bytes are decoded. -/
theorem seed_eq_invalidSeedLength_iff : m.seed = .error .invalidSeedLength ↔
    ∃ bytes, m.decodeSeed = .ok bytes ∧ bytes.length ≠ 32 := by
  rw [seed, bind_eq_error_iff, or_iff_right]
  · refine exists_congr fun bytes => and_congr_right fun _ => ?_
    rw [Ed25519.Seed.ofBytes, Ed25519.Seed.ofBytes?]
    by_cases hlength : bytes.length = Ed25519.keySize
    · rw [dif_pos hlength]
      exact iff_of_false (by simp) fun h => h hlength
    · rw [dif_neg hlength]
      exact iff_of_true rfl hlength
  · intro h
    obtain ⟨fault, hfault⟩ := invalidKeyMaterial_of_decodeSeed h
    contradiction

end KeyMaterial

namespace FileStore

variable {store : FileStore} {path : Text}

/-- What goes wrong when a file is read is no error of tokens. -/
theorem not_isTokenError_of_read {failure : Failure} (h : store.read path = .error failure) :
    failure.isTokenError = false := by
  rcases bind_eq_error_iff.mp h with hpath | ⟨way, -, hfile⟩
  · rw [Path.ofText] at hpath
    split at hpath
    · rw [← Except.error.inj hpath]
      rfl
    split at hpath
    · rw [← Except.error.inj hpath]
      rfl
    · contradiction
  · obtain ⟨fault, -, rfl⟩ := mapError_eq_error_iff.mp hfile
    rfl

/-- A seed file yields no pair if it cannot be read or its contents are no seed. -/
theorem seedPair_eq_error_iff {failure : Failure} : store.seedPair path = .error failure ↔
    store.read path = .error failure ∨ ∃ contents error, store.read path = .ok contents
      ∧ (KeyMaterial.bytes contents).seed = .error error ∧ .token error = failure := by
  rw [seedPair, map_eq_error_iff, FileStore.seed, bind_eq_error_iff]
  simp only [mapError_eq_error_iff, exists_and_left]

end FileStore

/-- Seed text is recognised if and only if it has sixty-four characters and decodes to thirty-two
bytes. Bytes that are not empty are decoded from their digits, in either letter case and with blanks
around them. The decoder never refuses a length, and the reader of seed files does so if and only if
the file decodes to other than thirty-two bytes. -/
theorem KeyMaterial.seedText_recognized (m : KeyMaterial) (store : FileStore) (path : Text) :
    (m.isEncodedKey = true ↔
      m.length = 64 ∧ ∃ bytes, m.decodeSeed = .ok bytes ∧ bytes.length = 32)
    ∧ (∀ bytes, bytes ≠ [] → m.IsHexOf bytes → m.decodeSeed = .ok bytes)
    ∧ m.decodeSeed ≠ .error .invalidSeedLength
    ∧ (store.seedPair path = .error (.token .invalidSeedLength) ↔
      ∃ contents bytes, store.read path = .ok contents
        ∧ (KeyMaterial.bytes contents).decodeSeed = .ok bytes ∧ bytes.length ≠ 32) := by
  refine ⟨isEncodedKey_iff, fun bytes => decodeSeed_of_isHexOf, fun h => ?_, ?_⟩
  · obtain ⟨fault, hfault⟩ := invalidKeyMaterial_of_decodeSeed h
    contradiction
  · rw [FileStore.seedPair_eq_error_iff, or_iff_right]
    · simp only [Failure.token.injEq, exists_eq_right, seed_eq_invalidSeedLength_iff,
        exists_and_left]
    · intro hread
      exact Bool.noConfusion (FileStore.not_isTokenError_of_read hread)

/-- A byte is decoded from its digits in mixed letter case between a no-break space and a line
feed. -/
theorem KeyMaterial.decodeSeed_mixedCase :
    (KeyMaterial.text [.ofNat 0xA0, .ofChar 'a', .ofChar 'B', .ofChar '\n']).decodeSeed
      = .ok [0xAB] :=
  (seedText_recognized _ FileStore.empty []).2.1 [0xAB] (by decide)
    ⟨[.ofNat 0xA0], [.ofChar 'a', .ofChar 'B'], [.ofChar '\n'], rfl, by decide, by decide,
      by decide⟩

end FleetToken
