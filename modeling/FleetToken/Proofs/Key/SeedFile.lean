import FleetToken.Connection
import FleetToken.Proofs.Key.Embedding
import FleetToken.Proofs.Text.Blank

/-!
# Seed files

Two readers take the seed of a file. The reader of seed files strips blanks from the text, and among
them the information separators, and it passes over white space between bytes. The reader of key
files looks for sixty-four digits with nothing but white space around them, and takes everything
else for a document. So whatever the reader of key files takes for a seed is one for the other
reader too, and the same one. A seed with loose space in it is lost on the reader of key files.

## Main definitions

* `Text.IsPlainSeed`: sixty-four digits with ASCII white space around them.
* `Text.HasLooseSpace`: white space between digits, or an information separator.

## Main results

* `KeyMaterial.seed_bytes_eq_ok_iff`: the bytes that the reader of seed files takes.
* `KeyPair.ofFile_ed25519_iff`: the bytes that the reader of key files takes for a seed.
* `FileStore.seedPair_keyPair_agree`: when the two readers agree.
-/

namespace FleetToken

/-! ## White space -/

namespace CodePoint

variable {c : CodePoint}

theorem lt_of_isGap (h : Hex.isGap c = true) : c.val < 0x80 := by
  simp only [Hex.isGap, Bool.or_eq_true, Bool.and_eq_true, decide_eq_true_eq, beq_iff_eq] at h
  omega

/-- What may stand between the digits of bytes is a blank. -/
theorem isBlank_of_isGap (h : Hex.isGap c = true) : c.isBlank = true := by
  simp only [Hex.isGap, Bool.or_eq_true, Bool.and_eq_true, decide_eq_true_eq, beq_iff_eq] at h
  simp only [isBlank, blankRanges, List.any_cons, Bool.or_eq_true, Bool.and_eq_true,
    decide_eq_true_eq]
  omega

/-- The ASCII blanks are the gaps and the information separators. -/
theorem isGap_or_isInformationSeparator (hc : c.val < 0x80) (h : c.isBlank = true) :
    Hex.isGap c = true ∨ c.isInformationSeparator = true := by
  have hascii : ∀ n : Fin 0x80, (ofNat n).isBlank = true →
      Hex.isGap (ofNat n) = true ∨ (ofNat n).isInformationSeparator = true := by
    decide +kernel
  exact of_forall_ascii (p := fun c => c.isBlank = true →
    Hex.isGap c = true ∨ c.isInformationSeparator = true) hascii hc h

/-- Information separators are blanks. -/
theorem isBlank_of_isInformationSeparator (h : c.isInformationSeparator = true) :
    c.isBlank = true := by
  simp only [isInformationSeparator, Bool.and_eq_true, decide_eq_true_eq] at h
  simp only [isBlank, blankRanges, List.any_cons, Bool.or_eq_true, Bool.and_eq_true,
    decide_eq_true_eq]
  omega

/-- They may not stand between the digits of bytes. -/
theorem not_isGap_of_isInformationSeparator (h : c.isInformationSeparator = true) :
    Hex.isGap c = false := by
  simp only [isInformationSeparator, Bool.and_eq_true, decide_eq_true_eq] at h
  simp only [Hex.isGap, Bool.or_eq_false_iff, Bool.and_eq_false_iff, decide_eq_false_iff_not,
    beq_eq_false_iff_ne]
  omega

/-- No blank is a digit. -/
theorem not_isBlank_of_mem_hexAlphabet (h : c ∈ hexAlphabet) : c.isBlank = false := by
  have hall : ∀ d ∈ hexAlphabet, d.isBlank = false := by decide
  exact hall c h

/-- No digit is a blank. -/
theorem not_isGap_of_mem_hexAlphabet (h : c ∈ hexAlphabet) : Hex.isGap c = false :=
  Bool.eq_false_iff.mpr fun hgap =>
    Bool.false_ne_true ((not_isBlank_of_mem_hexAlphabet h).symm.trans (isBlank_of_isGap hgap))

end CodePoint

/-! ## The plain form of a seed -/

namespace Text

/-- The text is sixty-four hexadecimal digits with ASCII white space around them. -/
def IsPlainSeed (t : Text) : Prop :=
  ∃ front digits back : Text, t = front ++ digits ++ back ∧ digits.IsKeyDigits
    ∧ (∀ c ∈ front, Hex.isGap c = true) ∧ ∀ c ∈ back, Hex.isGap c = true

/-- White space is left in the text without the blanks around it, or the text has an information
separator. -/
def HasLooseSpace (t : Text) : Prop :=
  (∃ c ∈ t.trim, Hex.isGap c = true) ∨ ∃ c ∈ t, c.isInformationSeparator = true

variable {t : Text}

/-- A plain seed is sixty-four digits when it is trimmed. -/
theorem isPlainSeed_iff_trimBy : t.IsPlainSeed ↔ (trimBy Hex.isGap t).IsKeyDigits := by
  constructor
  · rintro ⟨front, digits, back, rfl, hdigits, hfront, hback⟩
    have hstay : ∀ c ∈ digits, Hex.isGap c = false := fun c hc =>
      CodePoint.not_isGap_of_mem_hexAlphabet (hdigits.mem c hc)
    rwa [trimBy_append_append hfront hback, trimBy_eq_self hstay]
  · intro h
    obtain ⟨front, back, ht, hfront, hback⟩ := exists_append_trimBy Hex.isGap t
    exact ⟨front, _, back, ht, h, hfront, hback⟩

namespace IsPlainSeed

variable (h : t.IsPlainSeed)
include h

/-- All of a plain text is gaps and digits. -/
theorem isGap_or_mem {c : CodePoint} (hc : c ∈ t) : Hex.isGap c = true ∨ c ∈ hexAlphabet := by
  obtain ⟨front, digits, back, rfl, hdigits, hfront, hback⟩ := h
  simp only [List.mem_append] at hc
  rcases hc with (hc | hc) | hc
  · exact .inl (hfront c hc)
  · exact .inr (hdigits.mem c hc)
  · exact .inl (hback c hc)

/-- A plain seed is ASCII. -/
theorem isAscii : t.IsAscii := by
  intro c hc
  rcases h.isGap_or_mem hc with hgap | hdigit
  · exact CodePoint.lt_of_isGap hgap
  · exact CodePoint.lt_of_hexValue? (CodePoint.isSome_hexValue?_iff.mpr hdigit)

/-- The digits are what is left of a plain text without the blanks around it. -/
theorem isKeyDigits_trim : t.trim.IsKeyDigits := by
  obtain ⟨front, digits, back, rfl, hdigits, hfront, hback⟩ := h
  have htrim : trim (front ++ digits ++ back) = trim digits :=
    trimBy_append_append (fun c hc => CodePoint.isBlank_of_isGap (hfront c hc))
      (fun c hc => CodePoint.isBlank_of_isGap (hback c hc)) digits
  rw [htrim, trim_eq_self fun c hc => CodePoint.not_isBlank_of_mem_hexAlphabet (hdigits.mem c hc)]
  exact hdigits

/-- A plain seed has no blanks among its digits. -/
theorem not_hasLooseSpace : ¬t.HasLooseSpace := by
  rintro (⟨c, hc, hgap⟩ | ⟨c, hc, hseparator⟩)
  · have hstays := CodePoint.not_isGap_of_mem_hexAlphabet (h.isKeyDigits_trim.mem c hc)
    exact Bool.false_ne_true (hstays.symm.trans hgap)
  · rcases h.isGap_or_mem hc with hgap | hdigit
    · have hother := CodePoint.not_isGap_of_isInformationSeparator hseparator
      exact Bool.false_ne_true (hother.symm.trans hgap)
    · have hstays := CodePoint.not_isBlank_of_mem_hexAlphabet hdigit
      exact Bool.false_ne_true
        (hstays.symm.trans (CodePoint.isBlank_of_isInformationSeparator hseparator))

end IsPlainSeed

end Text

/-! ## The reader of seed files -/

/-- A seed is made of its own bytes. -/
theorem Ed25519.Seed.ofBytes_eq_ok_iff {bytes : Bytes} {seed : Ed25519.Seed} :
    ofBytes bytes = .ok seed ↔ bytes = seed.bytes := by
  rw [ofBytes, ofBytes?]
  by_cases hlength : bytes.length = keySize
  · simp only [hlength, ↓reduceDIte, Except.ok.injEq]
    exact ⟨fun h => h ▸ rfl, fun h => by subst h; rfl⟩
  · have hother : bytes ≠ seed.bytes := fun h => hlength (h ▸ seed.length_eq)
    simp [hlength, hother]

namespace KeyMaterial

variable {contents : Bytes} {seed : Ed25519.Seed}

theorem text?_bytes (h : ∀ b ∈ contents, b < 0x80) :
    (bytes contents).text? = some (Text.ofAscii contents) :=
  if_pos (by simpa using h)

theorem text?_bytes_eq_none (h : ¬∀ b ∈ contents, b < 0x80) : (bytes contents).text? = none :=
  if_neg (by simpa using h)

/-- A seed is read from ASCII text that writes thirty-two bytes, apart from blanks around it. -/
theorem seed_bytes_eq_ok_iff : (bytes contents).seed = .ok seed ↔
    (∀ b ∈ contents, b < 0x80) ∧ Hex.decode (Text.ofAscii contents).trim = .ok seed.bytes := by
  rw [KeyMaterial.seed, bind_eq_ok_iff]
  simp only [Ed25519.Seed.ofBytes_eq_ok_iff, exists_eq_right]
  by_cases hascii : ∀ b ∈ contents, b < 0x80
  · rw [decodeSeed, text?_bytes hascii, and_iff_right hascii]
    simp only
    split
    · rename_i hempty
      -- An empty text would write no bytes, which are no seed.
      have hother : [] ≠ seed.bytes := fun hnil => by
        have hlength := seed.length_eq
        rw [← hnil] at hlength
        contradiction
      simp [hempty, Hex.decode, Hex.decodeFrom, hother]
    · exact mapError_eq_ok_iff
  · rw [decodeSeed, text?_bytes_eq_none hascii]
    simp [hascii]

/-- All of a text that a seed is read from is blanks and digits. -/
theorem isBlank_or_mem_of_seed (h : (bytes contents).seed = .ok seed) {c : CodePoint}
    (hc : c ∈ Text.ofAscii contents) : c.isBlank = true ∨ c ∈ hexAlphabet := by
  obtain ⟨-, hdecode⟩ := seed_bytes_eq_ok_iff.mp h
  rcases Text.mem_trimBy_or (p := CodePoint.isBlank) hc with hkept | hblank
  · rcases Hex.isGap_or_isSome_of_decode hdecode c hkept with hgap | hdigit
    · exact .inl (CodePoint.isBlank_of_isGap hgap)
    · exact .inr (CodePoint.isSome_hexValue?_iff.mp hdigit)
  · exact .inl hblank

/-- A plain text writes a seed. -/
theorem exists_seed_of_isPlainSeed (h : (Text.ofAscii contents).IsPlainSeed) :
    ∃ seed, (bytes contents).seed = .ok seed := by
  have hascii := Text.lt_of_ofAscii_isAscii h.isAscii
  have hdigits := h.isKeyDigits_trim
  have hlength : (Text.ofAscii contents).trim.length = 2 * Ed25519.keySize := hdigits.length_eq
  obtain ⟨found, hfound, hfoundLength, -⟩ := Hex.exists_decode_of_digits hlength fun c hc =>
    CodePoint.isSome_hexValue?_iff.mpr (hdigits.mem c hc)
  exact ⟨⟨found, hfoundLength⟩, seed_bytes_eq_ok_iff.mpr ⟨hascii, hfound⟩⟩

/-- A text that a seed is read from is plain if and only if it has no loose space. -/
theorem isPlainSeed_iff_of_seed (h : (bytes contents).seed = .ok seed) :
    (Text.ofAscii contents).IsPlainSeed ↔ ¬(Text.ofAscii contents).HasLooseSpace := by
  refine ⟨Text.IsPlainSeed.not_hasLooseSpace, fun hloose => ?_⟩
  obtain ⟨hascii, hdecode⟩ := seed_bytes_eq_ok_iff.mp h
  simp only [Text.HasLooseSpace, not_or, not_exists, not_and, Bool.not_eq_true] at hloose
  obtain ⟨hgaps, hseparators⟩ := hloose
  have hdigits : (Text.ofAscii contents).trim.IsKeyDigits := by
    refine ⟨?_, fun c hc => ?_⟩
    · -- Two digits for each of thirty-two bytes, and nothing between them.
      have hlength := Hex.length_of_decode hdecode
      rwa [List.filter_eq_self.mpr fun c hc => by simp [hgaps c hc], seed.length_eq] at hlength
    · have hread := Hex.isGap_or_isSome_of_decode hdecode c hc
      exact CodePoint.isSome_hexValue?_iff.mp (hread.resolve_left (by simp [hgaps c hc]))
  obtain ⟨front, back, ht, hfront, hback⟩ :=
    Text.exists_append_trimBy CodePoint.isBlank (Text.ofAscii contents)
  -- What is stripped is ASCII, and no separator.
  have hgap {c : CodePoint} (hc : c ∈ Text.ofAscii contents) (hblank : c.isBlank = true) :
      Hex.isGap c = true := by
    have hlt := Text.ofAscii_isAscii hascii c hc
    have hspace := CodePoint.isGap_or_isInformationSeparator hlt hblank
    exact hspace.resolve_right (by simp [hseparators c hc])
  refine ⟨front, _, back, ht, hdigits, fun c hc => ?_, fun c hc => ?_⟩
  · exact hgap (by rw [ht]; simp [hc]) (hfront c hc)
  · exact hgap (by rw [ht]; simp [hc]) (hback c hc)

end KeyMaterial

/-! ## The reader of key files -/

/-- Bytes are trimmed as the text that they are. -/
theorem ofAscii_trimAsciiSpace (contents : Bytes) :
    Text.ofAscii (trimAsciiSpace contents) = Text.trimBy Hex.isGap (Text.ofAscii contents) := by
  have hspace : (Hex.isGap ∘ fun b : UInt8 => CodePoint.ofNat b.toNat)
      = fun b => (0x09 ≤ b && b ≤ 0x0D) || b == 0x20 := by
    funext b
    have hb := b.toNat_lt
    have hval := CodePoint.val_ofNat (show b.toNat < 0x110000 by omega)
    rw [Function.comp_apply, Hex.isGap, hval, Bool.eq_iff_iff]
    simp only [Bool.or_eq_true, Bool.and_eq_true, decide_eq_true_eq, beq_iff_eq,
      UInt8.le_iff_toNat_le, ← UInt8.toNat_inj, UInt8.reduceToNat]
  rw [trimAsciiSpace, Text.trimBy, Text.trimStartBy, Text.trimEndBy]
  simp only [Text.ofAscii, List.dropWhile_map, ← List.map_reverse, hspace]

/-- Bytes are taken for the digits of a key if they are sixty-four of them. -/
theorem KeyMaterial.isEncodedKey_bytes_iff {contents : Bytes} :
    (bytes contents).isEncodedKey = true ↔ (Text.ofAscii contents).IsKeyDigits := by
  rw [isEncodedKey]
  by_cases hascii : ∀ b ∈ contents, b < 0x80
  · rw [text?_bytes hascii, Option.any_some, isEncodedKeyText_iff]
  · rw [text?_bytes_eq_none hascii]
    refine iff_of_false Bool.false_ne_true fun hdigits => hascii ?_
    exact Text.lt_of_ofAscii_isAscii fun c hc =>
      CodePoint.lt_of_hexValue? (CodePoint.isSome_hexValue?_iff.mpr (hdigits.mem c hc))

namespace KeyPair

variable {contents document : Bytes} {pair : KeyPair}

/-- Contents are taken for a seed if they are one in plain form. -/
theorem isEncodedKey_trimAsciiSpace_iff :
    (KeyMaterial.bytes (trimAsciiSpace contents)).isEncodedKey = true
      ↔ (Text.ofAscii contents).IsPlainSeed := by
  rw [KeyMaterial.isEncodedKey_bytes_iff, ofAscii_trimAsciiSpace, Text.isPlainSeed_iff_trimBy]

/-- Key pairs in documents are RSA pairs. -/
theorem family_of_ofPemBytes (h : ofPemBytes document = .ok pair) : pair.family = .rsa := by
  unfold ofPemBytes at h
  split at h
  · split at h
    · exact congrArg family (Except.ok.inj h).symm
    · exact congrArg family (Except.ok.inj h).symm
    · contradiction
    · contradiction
  · contradiction

/-- A file without a plain seed is read as a document. -/
theorem ofFile_of_not_isPlainSeed (h : ¬(Text.ofAscii contents).IsPlainSeed) :
    ofFile contents = ofPemBytes contents := by
  rw [ofFile, if_neg (mt isEncodedKey_trimAsciiSpace_iff.mp h)]

/-- The contents of a key file are taken for a seed if they are one for the reader of seed files, in
plain form. -/
theorem ofFile_ed25519_iff : ofFile contents = .ok pair ∧ pair.family = .ed25519 ↔
    (Text.ofAscii contents).IsPlainSeed ∧ ∃ seed,
      (KeyMaterial.bytes contents).seed = .ok seed ∧ ofPrivate (.ed25519 seed) = pair := by
  by_cases hplain : (Text.ofAscii contents).IsPlainSeed
  · obtain ⟨seed, hseed⟩ := KeyMaterial.exists_seed_of_isPlainSeed hplain
    rw [ofFile, if_pos (isEncodedKey_trimAsciiSpace_iff.mpr hplain), hseed]
    simp only [Except.ok.injEq, hplain, true_and, exists_eq_left']
    exact ⟨fun h => h.1, fun h => ⟨h, h ▸ rfl⟩⟩
  · rw [ofFile_of_not_isPlainSeed hplain]
    refine iff_of_false ?_ fun h => hplain h.1
    rintro ⟨hpair, hfamily⟩
    rw [family_of_ofPemBytes hpair] at hfamily
    contradiction

/-- Blanks and digits have no hyphen among them, with which the mark of a document begins. -/
theorem hyphen_notMem (h : ∀ c ∈ Text.ofAscii contents, c.isBlank = true ∨ c ∈ hexAlphabet) :
    0x2D ∉ contents := by
  intro hmem
  have hhyphen : CodePoint.ofNat (0x2D : UInt8).toNat ∈ Text.ofAscii contents :=
    List.mem_map.mpr ⟨0x2D, hmem, rfl⟩
  rcases h _ hhyphen with hblank | hdigit
  · exact absurd hblank (by decide)
  · exact absurd hdigit (by decide)

/-- A seed that is not in plain form has nothing of a document. -/
theorem ofFile_of_seed {seed : Ed25519.Seed} (h : (KeyMaterial.bytes contents).seed = .ok seed)
    (hplain : ¬(Text.ofAscii contents).IsPlainSeed) :
    ofFile contents = .error (.token (.invalidKeyMaterial .noPem)) := by
  have hmarker : Bytes.includes Pem.marker contents ≠ true := by
    rw [Ne, Bytes.includes_iff]
    intro hmarked
    refine hyphen_notMem (fun c hc => ?_) (hmarked.subset (by decide))
    exact KeyMaterial.isBlank_or_mem_of_seed h hc
  rw [ofFile_of_not_isPlainSeed hplain, ofPemBytes, if_neg hmarker]

end KeyPair

/-! ## Files -/

namespace FileStore

variable {store : FileStore} {path : Text} {pair : KeyPair}

/-- The pair of a key file is that of its contents. -/
theorem keyPair_eq_ok_iff : store.keyPair path = .ok pair ↔
    ∃ contents, store.read path = .ok contents ∧ KeyPair.ofFile contents = .ok pair :=
  bind_eq_ok_iff

/-- The seed of a file is that of its contents. -/
theorem seed_eq_ok_iff {seed : Ed25519.Seed} : store.seed path = .ok seed ↔
    ∃ contents, store.read path = .ok contents ∧ (KeyMaterial.bytes contents).seed = .ok seed := by
  simp only [FileStore.seed, bind_eq_ok_iff, mapError_eq_ok_iff]

/-- The pair of a seed file is that of its seed. -/
theorem seedPair_eq_ok_iff : store.seedPair path = .ok pair ↔
    ∃ seed, store.seed path = .ok seed ∧ .ofPrivate (.ed25519 seed) = pair :=
  map_eq_ok_iff

/-- What the reader of key files takes for a seed is one for the reader of seed files, and the same
one. A seed for the reader of seed files is the same one for the reader of key files if and only if
it is in plain form, which is to say that it has no loose space; otherwise the reader of key files
misses the marks of a document. Nonces are signed with the seed that the reader of seed files
takes. -/
theorem seedPair_keyPair_agree (store : FileStore) (path : Text) :
    (∀ pair, store.keyPair path = .ok pair → pair.family = .ed25519 →
      store.seedPair path = .ok pair)
    ∧ (∀ pair, store.seedPair path = .ok pair → ∃ contents, store.read path = .ok contents
      ∧ (store.keyPair path = .ok pair ↔ (Text.ofAscii contents).IsPlainSeed)
      ∧ ((Text.ofAscii contents).IsPlainSeed ↔ ¬(Text.ofAscii contents).HasLooseSpace)
      ∧ (¬(Text.ofAscii contents).IsPlainSeed →
        store.keyPair path = .error (.token (.invalidKeyMaterial .noPem))))
    ∧ ∀ message signature,
      (store.signWithSeed path message = .ok signature ↔ ∃ pair seed,
        store.seedPair path = .ok pair ∧ pair.privateKey = some (.ed25519 seed)
          ∧ Ed25519.sign seed message = signature)
      ∧ ∀ inbox token,
        (Connection.mk inbox token path).sign store message = store.signWithSeed path message := by
  refine ⟨fun pair hpair hfamily => ?_, fun pair hpair => ?_,
    fun message signature => ⟨?_, fun inbox token => rfl⟩⟩
  · -- The reader of key files gives Ed25519 pairs for plain seeds only.
    obtain ⟨contents, hread, hfile⟩ := keyPair_eq_ok_iff.mp hpair
    obtain ⟨-, seed, hseed, rfl⟩ := KeyPair.ofFile_ed25519_iff.mp ⟨hfile, hfamily⟩
    exact seedPair_eq_ok_iff.mpr ⟨seed, seed_eq_ok_iff.mpr ⟨contents, hread, hseed⟩, rfl⟩
  · obtain ⟨seed, hseed, rfl⟩ := seedPair_eq_ok_iff.mp hpair
    obtain ⟨contents, hread, hcontents⟩ := seed_eq_ok_iff.mp hseed
    have hfile : store.keyPair path = KeyPair.ofFile contents := by
      rw [keyPair, hread, ok_bind]
    rw [hfile]
    refine ⟨contents, hread, ⟨fun h => ?_, fun hplain => ?_⟩,
      KeyMaterial.isPlainSeed_iff_of_seed hcontents, KeyPair.ofFile_of_seed hcontents⟩
    · exact (KeyPair.ofFile_ed25519_iff.mp ⟨h, rfl⟩).1
    · exact (KeyPair.ofFile_ed25519_iff.mpr ⟨hplain, seed, hcontents, rfl⟩).1
  · rw [signWithSeed, map_eq_ok_iff]
    constructor
    · rintro ⟨seed, hseed, hsignature⟩
      exact ⟨_, seed, seedPair_eq_ok_iff.mpr ⟨seed, hseed, rfl⟩, rfl, hsignature⟩
    · rintro ⟨pair, seed, hpair, hprivate, hsignature⟩
      obtain ⟨found, hfound, rfl⟩ := seedPair_eq_ok_iff.mp hpair
      obtain rfl := PrivateKey.ed25519.inj (Option.some.inj hprivate)
      exact ⟨_, hfound, hsignature⟩

/-- The path of a file in the working directory. -/
def samplePath : Text := Text.ofString "seed"

/-- A store with one file, which its owner may read and write. -/
def sample (contents : Bytes) : FileStore :=
  { empty with files := [([samplePath], { contents, mode := 0o600 })] }

/-- The digits of half a seed. -/
def halfSeed : Bytes := List.replicate 32 0x31

/-- The two readers agree on digits in one line. -/
theorem seedPair_keyPair_oneLine : ∃ pair,
    (sample (halfSeed ++ halfSeed ++ [0x0A])).seedPair samplePath = .ok pair
      ∧ (sample (halfSeed ++ halfSeed ++ [0x0A])).keyPair samplePath = .ok pair := by
  have hpair : (sample (halfSeed ++ halfSeed ++ [0x0A])).seedPair samplePath
      = .ok (.ofPrivate (.ed25519 ⟨List.replicate 32 0x11, rfl⟩)) := by rfl
  obtain ⟨-, hagree, -⟩ :=
    seedPair_keyPair_agree (sample (halfSeed ++ halfSeed ++ [0x0A])) samplePath
  obtain ⟨contents, hread, hkey, -⟩ := hagree _ hpair
  obtain rfl : halfSeed ++ halfSeed ++ [0x0A] = contents := Except.ok.inj hread
  exact ⟨_, hpair, hkey.mpr ⟨[], Text.ofAscii (halfSeed ++ halfSeed), [.ofNat 0x0A], rfl,
    ⟨rfl, by decide⟩, by decide, by decide⟩⟩

/-- They do not agree on digits in two lines: the reader of seed files takes them for a seed, and
the reader of key files for a document without its marks. -/
theorem not_keyPair_twoLines : ∃ pair,
    (sample (halfSeed ++ [0x0A] ++ halfSeed)).seedPair samplePath = .ok pair
      ∧ (sample (halfSeed ++ [0x0A] ++ halfSeed)).keyPair samplePath
        = .error (.token (.invalidKeyMaterial .noPem)) := by
  refine ⟨.ofPrivate (.ed25519 ⟨List.replicate 32 0x11, rfl⟩), ?_, ?_⟩
  · rfl
  · rfl

end FileStore

end FleetToken
