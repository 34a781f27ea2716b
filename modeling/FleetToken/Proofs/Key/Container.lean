import FleetToken.Key.Container
import FleetToken.Proofs.Crypto.Der
import FleetToken.Proofs.Crypto.Pem
import FleetToken.Proofs.Outcome

/-!
# RSA keys in documents

An RSA key is read from a document only if its numbers are not too large to be kept. Every such key
is read back from the document that it is written as. No private key is looked for in it, since the
words that would tell of one do not stand in it.

## Main definitions

* `Rsa.PublicKey.Fits`, `LoadedKey.Fits`: the numbers of a key can be kept.
* `LoadedKey.IsLoadable`: the key is in a document.

## Main results

* `LoadedKey.IsLoadable.fits`: the numbers of all keys that are read can be kept.
* `Container.publicKeyInfo_toInfo`: a key is read back from its SubjectPublicKeyInfo.
* `LoadedKey.ofPem_toPem`: and from its document.
-/

namespace FleetToken

/-- The numbers of an RSA key are not too large to be kept. -/
structure Rsa.PublicKey.Fits (key : Rsa.PublicKey) : Prop where
  modulus : key.modulus.log2 < Container.maxNumberBits
  exponent : key.exponent.log2 < Container.maxNumberBits

/-- The public half of a key of one of the two families. -/
def LoadedKey.publicKey? : LoadedKey → Option PublicKey
  | .publicHalf key => some key
  | .privateHalf key => some key.publicKey
  | .foreign _ _ => none

/-- The numbers of the key can be kept, if it is an RSA key. -/
def LoadedKey.Fits (loaded : LoadedKey) : Prop :=
  ∀ key, loaded.publicKey? = some (.rsa key) → key.Fits

namespace Container

/-! ## Numbers -/

/-- The numbers of keys are natural numbers that are not too large. -/
theorem number?_eq_some_iff {e : Der.Element} {n : Nat} :
    number? e = some n ↔ Der.natural? e = some n ∧ n.log2 < maxNumberBits := by
  rw [number?, Option.bind_eq_bind, Option.bind_eq_some_iff]
  constructor
  · rintro ⟨m, hm, hn⟩
    split at hn
    · rename_i hbits
      obtain rfl := Option.some.inj hn
      exact ⟨hm, hbits⟩
    · contradiction
  · rintro ⟨hn, hbits⟩
    exact ⟨n, hn, if_pos hbits⟩

theorem number?_natural {n : Nat} (h : n.log2 < maxNumberBits) :
    number? (Der.natural n) = some n :=
  number?_eq_some_iff.mpr ⟨Der.natural?_natural n, h⟩

/-- A public key that is read is not too large to be written. -/
theorem fits_of_rsaPublic? {bytes : Bytes} {key : Rsa.PublicKey}
    (h : rsaPublic? bytes = some key) : key.Fits := by
  rw [rsaPublic?] at h
  obtain ⟨elements, -, h⟩ := Option.bind_eq_some_iff.mp h
  split at h
  · obtain ⟨n, hn, h⟩ := Option.bind_eq_some_iff.mp h
    obtain ⟨e, he, h⟩ := Option.bind_eq_some_iff.mp h
    obtain rfl := Option.some.inj h
    exact ⟨(number?_eq_some_iff.mp hn).2, (number?_eq_some_iff.mp he).2⟩
  · contradiction

/-- Nor are any numbers that are read together. -/
theorem log2_lt_of_mapM_number? {elements : List Der.Element} {numbers : List Nat}
    (h : elements.mapM number? = some numbers) : ∀ n ∈ numbers, n.log2 < maxNumberBits := by
  induction elements generalizing numbers with
  | nil => simp_all
  | cons e elements ih =>
    simp only [List.mapM_cons, Option.bind_eq_bind, Option.bind_eq_some_iff] at h
    obtain ⟨n, hn, rest, hrest, hcons⟩ := h
    obtain rfl := Option.some.inj hcons
    exact List.forall_mem_cons.mpr ⟨(number?_eq_some_iff.mp hn).2, ih hrest⟩

/-- The public half of a private key that is read is not too large either. -/
theorem fits_of_rsaPrivate? {bytes : Bytes} {key : Rsa.PrivateKey}
    (h : rsaPrivate? bytes = some key) : key.publicKey.Fits := by
  rw [rsaPrivate?] at h
  obtain ⟨elements, -, h⟩ := Option.bind_eq_some_iff.mp h
  obtain ⟨numbers, hnumbers, h⟩ := Option.bind_eq_some_iff.mp h
  have hbits := log2_lt_of_mapM_number? hnumbers
  split at h
  · simp only [Option.ite_none_right_eq_some] at h
    obtain rfl := Option.some.inj h.2
    exact ⟨hbits _ (by simp), hbits _ (by simp)⟩
  · contradiction

/-! ## The key in a SubjectPublicKeyInfo -/

section Info

variable {key : Rsa.PublicKey} (h : key.Fits)
include h

/-- Two such numbers take less than the most that a length can say. -/
theorem length_toDer_content_le :
    ([Der.natural key.modulus, Der.natural key.exponent].flatMap Der.Element.encode).length
      ≤ 2 ^ 27 := by
  have hmodulus := Der.length_content_natural_le key.modulus
  have hexponent := Der.length_content_natural_le key.exponent
  have hmodulusBits := h.modulus
  have hexponentBits := h.exponent
  rw [maxNumberBits] at hmodulusBits hexponentBits
  have hmodulusLength : (Der.natural key.modulus).encode.length ≤ 2 ^ 26 :=
    (Der.length_encode_le (by omega)).trans (by omega)
  have hexponentLength : (Der.natural key.exponent).encode.length ≤ 2 ^ 26 :=
    (Der.length_encode_le (by omega)).trans (by omega)
  simp only [List.flatMap_cons, List.flatMap_nil, List.append_nil, List.length_append]
  omega

/-- A key is read back from its two numbers. -/
theorem rsaPublic?_toDer : rsaPublic? key.toDer = some key := by
  have hlength := length_toDer_content_le h
  rw [rsaPublic?, Rsa.PublicKey.toDer, Der.sequence?_encode (by omega)]
  simp [number?_natural h.modulus, number?_natural h.exponent]

/-- A key is read back from its SubjectPublicKeyInfo. -/
theorem publicKeyInfo_toInfo : publicKeyInfo key.toInfo = .ok (.publicHalf (.rsa key)) := by
  have hnumbers := length_toDer_content_le h
  have hlength : (Der.bitString key.toDer).content.length ≤ 2 ^ 27 + 7 :=
    Nat.succ_le_succ ((Der.length_encode_sequence_le (by omega)).trans (by omega))
  have hkey : (Der.bitString key.toDer).encode.length ≤ 2 ^ 28 :=
    (Der.length_encode_le (by omega)).trans (by omega)
  -- The identifier names RSA and has no parameters but the null value.
  have hidentifier : algorithm (Der.sequence
      [⟨Der.identifierTag, rsaIdentifier⟩, ⟨Der.nullTag, []⟩]).content = .ok .rsa := rfl
  have hsequence : Der.sequence? key.toInfo = some
      [Der.sequence [⟨Der.identifierTag, rsaIdentifier⟩, ⟨Der.nullTag, []⟩],
        Der.bitString key.toDer] := by
    refine Der.sequence?_encode ?_
    have hfirst : (Der.sequence [⟨Der.identifierTag, rsaIdentifier⟩,
      ⟨Der.nullTag, []⟩]).encode.length = 15 := rfl
    simp only [List.flatMap_cons, List.flatMap_nil, List.append_nil, List.length_append, hfirst]
    omega
  have hpublic : publicHalf .rsa key.toDer = .ok (.publicHalf (.rsa key)) := by
    rw [publicHalf, rsaPublic?_toDer h]
    rfl
  rw [publicKeyInfo, hsequence, ← hpublic, ← ok_bind .rsa fun found => publicHalf found key.toDer,
    ← hidentifier]
  rfl

end Info

/-! ## Keys of all forms -/

section Forms

variable {algorithm : Algorithm} {bytes : Bytes} {loaded : LoadedKey}

theorem orMalformed_map_eq_ok_iff {α β : Type} {found : Option α} {f : α → β} {b : β} :
    orMalformed (found.map f) = .ok b ↔ ∃ a, found = some a ∧ f a = b := by
  cases found <;> simp [orMalformed]

theorem fits_foreign (kind : ForeignKind) (half : KeyHalf) : (LoadedKey.foreign kind half).Fits :=
  fun _ h => absurd h (Option.some_ne_none _).symm

/-- A loaded key fits if its RSA public half does. -/
theorem fits_of_publicKey? {key : Rsa.PublicKey} (hkey : key.Fits)
    (h : loaded.publicKey? = some (.rsa key)) : loaded.Fits := by
  intro other hother
  obtain rfl := PublicKey.rsa.inj (Option.some.inj (h.symm.trans hother))
  exact hkey

theorem fits_rsaPrivate (h : orMalformed ((rsaPrivate? bytes).map fun key =>
    .privateHalf (.rsa key)) = .ok loaded) : loaded.Fits := by
  obtain ⟨key, hkey, rfl⟩ := orMalformed_map_eq_ok_iff.mp h
  exact fits_of_publicKey? (fits_of_rsaPrivate? hkey) rfl

theorem fits_of_foreign_ite {fits : Bool} {kind : ForeignKind} {half : KeyHalf}
    (h : (if fits then .ok (.foreign kind half) else .error .malformed : Except PemFault LoadedKey)
      = .ok loaded) : loaded.Fits := by
  cases fits with
  | false => contradiction
  | true =>
    obtain rfl := Except.ok.inj h
    exact fits_foreign kind half

/-- Stored public halves fit. -/
theorem fits_of_publicHalf (h : publicHalf algorithm bytes = .ok loaded) : loaded.Fits := by
  -- Only RSA keys have numbers that are kept.
  cases algorithm with
  | rsa =>
    obtain ⟨key, hkey, rfl⟩ := orMalformed_map_eq_ok_iff.mp h
    exact fits_of_publicKey? (fits_of_rsaPublic? hkey) rfl
  | ed25519 =>
    obtain ⟨key, -, rfl⟩ := orMalformed_map_eq_ok_iff.mp h
    exact fun other hother => absurd (Option.some.inj hother) (by simp)
  | raw kind size => exact fits_of_foreign_ite h
  | ec size =>
    simp only [publicHalf] at h
    split at h
    · exact fits_of_foreign_ite h
    · exact fits_of_foreign_ite h
    · exact fits_of_foreign_ite h
    · contradiction
  | dsa | dh =>
    obtain ⟨n, -, rfl⟩ := orMalformed_map_eq_ok_iff.mp h
    exact fits_foreign _ _

/-- Stored private halves fit. -/
theorem fits_of_privateHalf (h : privateHalf algorithm bytes = .ok loaded) : loaded.Fits := by
  cases algorithm with
  | rsa => exact fits_rsaPrivate h
  | ed25519 =>
    obtain ⟨seed, -, rfl⟩ := orMalformed_map_eq_ok_iff.mp h
    exact fun other hother => absurd (Option.some.inj hother) (by simp [PrivateKey.publicKey])
  | raw kind size => exact fits_of_foreign_ite h
  | ec size => exact fits_of_foreign_ite h
  | dsa => exact fits_of_foreign_ite h
  | dh => exact fits_of_foreign_ite h

/-- A key in a SubjectPublicKeyInfo fits. -/
theorem fits_of_publicKeyInfo (h : publicKeyInfo bytes = .ok loaded) : loaded.Fits := by
  rw [publicKeyInfo] at h
  split at h
  · split at h
    · obtain ⟨found, -, hpublic⟩ := bind_eq_ok_iff.mp h
      exact fits_of_publicHalf hpublic
    · contradiction
  · contradiction

/-- A key in a PrivateKeyInfo fits. -/
theorem fits_of_privateKeyInfo (h : privateKeyInfo bytes = .ok loaded) : loaded.Fits := by
  rw [privateKeyInfo] at h
  split at h
  · split at h
    · obtain ⟨found, -, hprivate⟩ := bind_eq_ok_iff.mp h
      exact fits_of_privateHalf hprivate
    · contradiction
  · contradiction

/-- Whatever form a public block has, the numbers of its key can be kept. -/
theorem fits_of_publicReader? {label : Text} {reader : Bytes → Except PemFault LoadedKey}
    (hreader : publicReader? label = some reader) (h : reader bytes = .ok loaded) :
    loaded.Fits := by
  have hpublic {key : Rsa.PublicKey} (hkey : rsaPublic? bytes = some key) :
      (LoadedKey.publicHalf (.rsa key)).Fits :=
    fits_of_publicKey? (fits_of_rsaPublic? hkey) rfl
  -- A block of either label may hold a key in the form of the other one.
  rw [publicReader?] at hreader
  split at hreader
  · obtain rfl := Option.some.inj hreader
    rw [anyPublic] at h
    split at h
    · rename_i hkey
      obtain rfl := Except.ok.inj h
      exact hpublic hkey
    · exact fits_of_publicKeyInfo h
  split at hreader
  · obtain rfl := Option.some.inj hreader
    rw [rsaPublicInfo] at h
    split at h
    · rename_i hkey
      obtain rfl := Except.ok.inj h
      exact hpublic hkey
    · rename_i hinfo
      obtain rfl := Except.ok.inj h
      exact fits_of_publicKeyInfo hinfo
    · contradiction
  · contradiction

theorem fits_of_ecPrivateInfo (h : ecPrivateInfo bytes = .ok loaded) : loaded.Fits := by
  rw [ecPrivateInfo] at h
  split at h
  · split at h
    · obtain ⟨size, -, rfl⟩ := map_eq_ok_iff.mp h
      exact fits_foreign _ _
    · contradiction
  · contradiction

theorem fits_of_dsaPrivateInfo (h : dsaPrivateInfo bytes = .ok loaded) : loaded.Fits := by
  rw [dsaPrivateInfo] at h
  split at h
  · obtain rfl := Except.ok.inj h
    exact fits_foreign _ _
  · contradiction

/-- No key is read from one that is encrypted. -/
theorem encryptedInfo_ne_ok : encryptedInfo bytes ≠ .ok loaded := by
  rw [encryptedInfo]
  split <;> simp

/-- Whatever form a private block has, the numbers of its key can be kept. -/
theorem fits_of_privateReader? {label : Text} {reader : Bytes → Except PemFault LoadedKey}
    (hreader : privateReader? label = some reader) (h : reader bytes = .ok loaded) :
    loaded.Fits := by
  -- One branch for each of the five labels.
  rw [privateReader?] at hreader
  split at hreader
  · obtain rfl := Option.some.inj hreader
    exact fits_of_privateKeyInfo h
  split at hreader
  · obtain rfl := Option.some.inj hreader
    exact absurd h encryptedInfo_ne_ok
  split at hreader
  · obtain rfl := Option.some.inj hreader
    exact fits_rsaPrivate h
  split at hreader
  · obtain rfl := Option.some.inj hreader
    exact fits_of_ecPrivateInfo h
  split at hreader
  · obtain rfl := Option.some.inj hreader
    exact fits_of_dsaPrivateInfo h
  · contradiction

end Forms

end Container

/-! ## Documents -/

namespace LoadedKey

/-- The key is in a document, as a public or as a private one. -/
def IsLoadable (loaded : LoadedKey) : Prop :=
  ∃ document, ofPublicPem document = .ok loaded ∨ ofPrivatePem document = .ok loaded

variable {document : Bytes} {loaded : LoadedKey}

/-- Public keys in documents fit. -/
theorem fits_of_ofPublicPem (h : ofPublicPem document = .ok loaded) : loaded.Fits := by
  rw [ofPublicPem] at h
  split at h
  · rename_i reader block hfound
    obtain ⟨block, -, hblock⟩ := Option.bind_eq_some_iff.mp hfound
    obtain ⟨reader, hreader, hpair⟩ := Option.map_eq_some_iff.mp hblock
    obtain ⟨rfl, rfl⟩ := Prod.mk.inj hpair
    exact Container.fits_of_publicReader? hreader h
  · contradiction

/-- Private keys in documents fit. -/
theorem fits_of_ofPrivatePem (h : ofPrivatePem document = .ok loaded) : loaded.Fits := by
  rw [ofPrivatePem] at h
  split at h
  · rename_i reader block hfound
    obtain ⟨blocks, -, hblock⟩ := Option.bind_eq_some_iff.mp hfound
    obtain ⟨block, -, hblock⟩ := List.exists_of_findSome?_eq_some hblock
    obtain ⟨reader, hreader, hpair⟩ := Option.map_eq_some_iff.mp hblock
    obtain ⟨rfl, rfl⟩ := Prod.mk.inj hpair
    split at h
    · contradiction
    · exact Container.fits_of_privateReader? hreader h
    · contradiction
  · contradiction

/-- The numbers of all keys that are read from documents can be kept. -/
theorem IsLoadable.fits (h : loaded.IsLoadable) : loaded.Fits := by
  obtain ⟨document, hpublic | hprivate⟩ := h
  · exact fits_of_ofPublicPem hpublic
  · exact fits_of_ofPrivatePem hprivate

end LoadedKey

/-! ## The document of a key -/

/-- The label of public keys. -/
def publicLabel : Text := Text.ofString "PUBLIC KEY"

/-- The block that a key is written as. -/
def Rsa.PublicKey.toBlock (key : Rsa.PublicKey) : Pem.Block :=
  ⟨publicLabel, [], key.toInfo⟩

namespace LoadedKey

/-- The block of an RSA key has a plain label and no headers. -/
theorem isPlain_toBlock (key : Rsa.PublicKey) : key.toBlock.IsPlain where
  label_ne := show publicLabel ≠ [] by decide
  isAscii := show ∀ c ∈ publicLabel, c.val < 0x80 by decide
  hyphen := show CodePoint.ofChar '-' ∉ publicLabel by decide
  headers_eq := rfl

/-- No space in the document of a key follows the letter E, as it does in the words that would tell
of a private key. -/
theorem not_includes_toPem (key : Rsa.PublicKey) :
    Bytes.includes (Bytes.ofAscii "PRIVATE KEY") key.toPem = false := by
  have hencode : key.toPem
      = (Bytes.ofAscii "-----BEGIN " ++ publicLabel.toUtf8 ++ Pem.dashes ++ [0x0A])
        ++ (Pem.dataLines key.toInfo
          ++ (Bytes.ofAscii "-----END " ++ publicLabel.toUtf8 ++ Pem.dashes ++ [0x0A])) := by
    have hblock := Pem.Block.encode_eq key.toBlock
    simp only [List.append_assoc, List.cons_append, List.nil_append] at hblock ⊢
    exact hblock
  have hdata : (0x20 : UInt8) ∉ Pem.dataLines key.toInfo :=
    Pem.notMem_dataLines (by decide) (by decide) _
  refine Bytes.not_includes_of_isChain (r := fun c d => ¬(c = 0x45 ∧ d = 0x20)) ?_ (by decide)
  rw [hencode]
  exact Bytes.isChain_between (by decide) hdata (by decide) (by decide)

/-- The public key in the document of an RSA key is this key. -/
theorem ofPublicPem_toPem {key : Rsa.PublicKey} (h : key.Fits) :
    ofPublicPem key.toPem = .ok (.publicHalf (.rsa key)) := by
  have hblock : Pem.firstBlock? key.toPem = some key.toBlock :=
    Pem.firstBlock?_encode (isPlain_toBlock key)
  have hreader : Container.publicReader? key.toBlock.label = some Container.anyPublic := rfl
  rw [ofPublicPem, hblock, Option.bind_some, hreader, Option.map_some]
  have hinfo : Container.publicKeyInfo key.toBlock.contents = .ok (.publicHalf (.rsa key)) :=
    Container.publicKeyInfo_toInfo h
  simp only [Container.anyPublic, hinfo]

/-- A key is read back from its document. -/
theorem ofPem_toPem {key : Rsa.PublicKey} (h : key.Fits) :
    ofPem key.toPem = .ok (.publicHalf (.rsa key)) := by
  rw [ofPem, not_includes_toPem, if_neg Bool.false_ne_true, ofPublicPem_toPem h]

end LoadedKey

end FleetToken
