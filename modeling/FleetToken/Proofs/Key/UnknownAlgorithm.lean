import FleetToken.Proofs.Key.Container

/-!
# Documents that name an unknown algorithm

A key container names its algorithm before it holds the key, and some algorithms name a curve. A
well-formed container that names one which is not known is not malformed, and it is the only one
whose reader gives up for that reason. Which container of a document counts is a matter of labels:
the first block for public keys, the first one with a known label for private keys.

## Main definitions

* `Container.NamesUnknown`, `Container.NamesUnknownCurve`: what an identifying sequence names is not
  known.
* `LoadedKey.HasUnknownPublic`, `LoadedKey.HasUnknownPrivate`: the block that counts names it.
* `LoadedKey.IsUnknownDocument`: a document that names an algorithm or a curve that is not known.

## Main results

* `Container.algorithm_eq_unsupported_iff`: the identifying sequences that are given up.
* `LoadedKey.ofPem_eq_unsupported_iff`: the documents that are given up.
-/

namespace FleetToken

namespace Container

/-! ## Identifying sequences -/

/-- The identifier of keys on named curves. -/
def curveIdentifier : Bytes := [0x2A, 0x86, 0x48, 0xCE, 0x3D, 0x02, 0x01]

/-- The identifiers of the known algorithms. -/
def knownIdentifiers : List Bytes :=
  [rsaIdentifier, rsaPssIdentifier, curveIdentifier,
    [0x2A, 0x86, 0x48, 0xCE, 0x38, 0x04, 0x01],
    [0x2A, 0x86, 0x48, 0x86, 0xF7, 0x0D, 0x01, 0x03, 0x01],
    [0x2A, 0x86, 0x48, 0xCE, 0x3E, 0x02, 0x01],
    [0x2B, 0x65, 0x6E], [0x2B, 0x65, 0x6F], [0x2B, 0x65, 0x70], [0x2B, 0x65, 0x71]]

/-- The parameters are the name of a curve that is not known. -/
def NamesUnknownCurve (parameters : List Der.Element) : Prop :=
  ∃ curve, parameters = [⟨Der.identifierTag, curve⟩] ∧ Der.isIdentifier curve = true
    ∧ curve ∉ curves.map Prod.fst

/-- An identifier with one parameter at most is that of an algorithm that is not known, or it is
that of keys on curves and the curve is not known. -/
def IsUnknown (identifier : Bytes) (parameters : List Der.Element) : Prop :=
  (Der.isIdentifier identifier = true ∧ parameters.length ≤ 1 ∧ identifier ∉ knownIdentifiers)
    ∨ (identifier = curveIdentifier ∧ NamesUnknownCurve parameters)

/-- The content of an identifying sequence names an algorithm that is not known, or a curve that is
not known for one that needs a curve. -/
def NamesUnknown (content : Bytes) : Prop :=
  ∃ identifier parameters,
    Der.elements? content = some (⟨Der.identifierTag, identifier⟩ :: parameters)
      ∧ IsUnknown identifier parameters

variable {identifier content bytes : Bytes} {parameters : List Der.Element}

/-- A curve is not known if it is none of the named ones. -/
theorem lookup_curves_eq_none_iff {curve : Bytes} :
    curves.lookup curve = none ↔ curve ∉ curves.map Prod.fst := by
  rw [List.lookup_eq_none_iff]
  simp only [bne_iff_ne, List.mem_map, not_exists, not_and]
  exact ⟨fun h entry hentry hsame => h entry hentry hsame.symm,
    fun h entry hentry hsame => h entry hentry hsame.symm⟩

/-- Parameters are given up where they name a curve that is not known. -/
theorem curveSize_eq_unsupported_iff :
    curveSize parameters = .error .unsupported ↔ NamesUnknownCurve parameters := by
  rw [curveSize.eq_def]
  split
  · rename_i curve
    have hnames : NamesUnknownCurve [⟨0x06, curve⟩] ↔
        Der.isIdentifier curve = true ∧ curves.lookup curve = none := by
      rw [lookup_curves_eq_none_iff, NamesUnknownCurve]
      simp [Der.identifierTag]
    rw [hnames]
    cases curves.lookup curve <;> simp
  · rename_i hother
    refine iff_of_false (by simp) ?_
    rintro ⟨curve, rfl, -⟩
    exact hother curve rfl

theorem ite_ne_unsupported {α : Type} (p : Prop) [Decidable p] (a : α) :
    (if p then .ok a else .error .malformed : Except PemFault α) ≠ .error .unsupported := by
  split <;> simp

/-- A known algorithm that needs no curve can only have wrong parameters. -/
theorem algorithmOf_ne_unsupported (hknown : identifier ∈ knownIdentifiers)
    (hcurve : identifier ≠ curveIdentifier) :
    algorithmOf identifier parameters ≠ .error .unsupported := by
  simp only [knownIdentifiers, List.mem_cons, List.not_mem_nil, or_false] at hknown
  rcases hknown with rfl | rfl | rfl | rfl | rfl | rfl | rfl | rfl | rfl | rfl
  · exact ite_ne_unsupported _ _
  · by_cases hempty : parameters = []
    · simp [hempty, algorithmOf]
    · simp +decide only [algorithmOf, hempty, ↓reduceIte]
      split <;> simp
  · exact absurd rfl hcurve
  · simp +decide only [algorithmOf, ↓reduceIte]
    split <;> simp
  · simp +decide only [algorithmOf, ↓reduceIte]
    split <;> simp
  · simp +decide only [algorithmOf, ↓reduceIte]
    split <;> simp
  · exact ite_ne_unsupported _ _
  · exact ite_ne_unsupported _ _
  · exact ite_ne_unsupported _ _
  · exact ite_ne_unsupported _ _

/-- An identifier is given up if its algorithm or its curve is not known. -/
theorem algorithmOf_eq_unsupported_iff :
    algorithmOf identifier parameters = .error .unsupported ↔ IsUnknown identifier parameters := by
  rw [IsUnknown]
  by_cases hcurve : identifier = curveIdentifier
  · subst hcurve
    have hsize : algorithmOf curveIdentifier parameters = (curveSize parameters).map .ec := rfl
    have hknown : curveIdentifier ∈ knownIdentifiers := by decide
    rw [hsize, map_eq_error_iff, curveSize_eq_unsupported_iff]
    simp [hknown]
  by_cases hknown : identifier ∈ knownIdentifiers
  · simp [algorithmOf_ne_unsupported hknown hcurve, hknown, hcurve]
  · have hunknown := hknown
    simp only [knownIdentifiers, List.mem_cons, List.not_mem_nil, or_false, not_or] at hknown
    obtain ⟨hrsa, hpss, hec, hdsa, hdh, hdhx, hx25519, hx448, hed25519, hed448⟩ := hknown
    rw [curveIdentifier] at hec
    simp only [algorithmOf, hrsa, hpss, hec, hdsa, hdh, hdhx, hx25519, hx448, hed25519, hed448,
      ↓reduceIte, hunknown, hcurve]
    simp

/-- An identifying sequence is given up if it names what is not known. -/
theorem algorithm_eq_unsupported_iff :
    algorithm content = .error .unsupported ↔ NamesUnknown content := by
  rw [algorithm.eq_def]
  split
  · rename_i identifier parameters helements
    rw [algorithmOf_eq_unsupported_iff]
    constructor
    · exact fun h => ⟨identifier, parameters, helements, h⟩
    · rintro ⟨other, others, hother, h⟩
      rw [helements, Option.some.injEq, List.cons.injEq, Der.Element.mk.injEq] at hother
      obtain ⟨⟨-, rfl⟩, rfl⟩ := hother
      exact h
  · rename_i hother
    refine iff_of_false (by simp) ?_
    rintro ⟨identifier, parameters, helements, -⟩
    exact hother identifier parameters helements

/-! ## Containers -/

/-- The bytes are a SubjectPublicKeyInfo whose algorithm is not known. -/
def IsUnknownPublic (bytes : Bytes) : Prop :=
  ∃ identifier stored key,
    Der.sequence? bytes = some [⟨Der.sequenceTag, identifier⟩, stored]
      ∧ Der.bitString? stored = some key ∧ NamesUnknown identifier

/-- The bytes are a PrivateKeyInfo whose algorithm is not known. -/
def IsUnknownPrivate (bytes : Bytes) : Prop :=
  ∃ identifier key attributes,
    Der.sequence? bytes = some (⟨Der.integerTag, [0]⟩ :: ⟨Der.sequenceTag, identifier⟩
        :: ⟨0x04, key⟩ :: attributes)
      ∧ (∀ e ∈ attributes, e.tag = 0xA0) ∧ NamesUnknown identifier

/-- The bytes are an elliptic-curve key in the form of its own whose curve is not known. -/
def IsUnknownCurvePrivate (bytes : Bytes) : Prop :=
  ∃ key content rest parameters,
    Der.sequence? bytes = some (⟨Der.integerTag, [1]⟩ :: ⟨0x04, key⟩ :: ⟨0xA0, content⟩ :: rest)
      ∧ Der.elements? content = some parameters ∧ NamesUnknownCurve parameters

theorem orMalformed_ne_unsupported {α : Type} (found : Option α) :
    orMalformed found ≠ .error .unsupported := by
  cases found <;> simp [orMalformed]

/-- Once its algorithm is known a stored key can only be malformed. -/
theorem publicHalf_ne_unsupported (algorithm : Algorithm) (bytes : Bytes) :
    publicHalf algorithm bytes ≠ .error .unsupported := by
  cases algorithm with
  | rsa | ed25519 | dsa | dh => exact orMalformed_ne_unsupported _
  | raw kind size => exact ite_ne_unsupported _ _
  | ec size =>
    simp only [publicHalf]
    split
    · exact ite_ne_unsupported _ _
    · exact ite_ne_unsupported _ _
    · exact ite_ne_unsupported _ _
    · simp

/-- So can a stored private half. -/
theorem privateHalf_ne_unsupported (algorithm : Algorithm) (bytes : Bytes) :
    privateHalf algorithm bytes ≠ .error .unsupported := by
  cases algorithm with
  | rsa | ed25519 => exact orMalformed_ne_unsupported _
  | raw | ec | dsa | dh => exact ite_ne_unsupported _ _

/-- A SubjectPublicKeyInfo is given up if its algorithm is not known. -/
theorem publicKeyInfo_eq_unsupported_iff :
    publicKeyInfo bytes = .error .unsupported ↔ IsUnknownPublic bytes := by
  constructor
  · intro h
    rw [publicKeyInfo.eq_def] at h
    split at h
    · rename_i identifier stored hsequence
      split at h
      · rename_i key hkey
        rcases bind_eq_error_iff.mp h with hfails | ⟨found, -, hfails⟩
        · exact ⟨identifier, stored, key, hsequence, hkey, algorithm_eq_unsupported_iff.mp hfails⟩
        · exact absurd hfails (publicHalf_ne_unsupported found key)
      · contradiction
    · contradiction
  · rintro ⟨identifier, stored, key, hsequence, hkey, hunknown⟩
    simp only [publicKeyInfo, hsequence, Der.sequenceTag, hkey,
      algorithm_eq_unsupported_iff.mpr hunknown, error_bind]

/-- A PrivateKeyInfo is given up if its algorithm is not known. -/
theorem privateKeyInfo_eq_unsupported_iff :
    privateKeyInfo bytes = .error .unsupported ↔ IsUnknownPrivate bytes := by
  constructor
  · intro h
    rw [privateKeyInfo.eq_def] at h
    split at h
    · rename_i identifier key attributes hsequence
      split at h
      · rename_i hattributes
        simp only [List.all_eq_true, beq_iff_eq] at hattributes
        -- A private half is malformed at worst, so the identifier is to blame.
        rcases bind_eq_error_iff.mp h with hfails | ⟨found, -, hfails⟩
        · exact ⟨identifier, key, attributes, hsequence, hattributes,
            algorithm_eq_unsupported_iff.mp hfails⟩
        · exact absurd hfails (privateHalf_ne_unsupported found key)
      · contradiction
    · contradiction
  · rintro ⟨identifier, key, attributes, hsequence, hattributes, hunknown⟩
    have hall : attributes.all (·.tag == 0xA0) = true := by
      simpa only [List.all_eq_true, beq_iff_eq] using hattributes
    simp only [privateKeyInfo, hsequence, Der.integerTag, Der.sequenceTag, hall, ↓reduceIte,
      algorithm_eq_unsupported_iff.mpr hunknown, error_bind]

/-- An elliptic-curve key is given up if its curve is not known. -/
theorem ecPrivateInfo_eq_unsupported_iff :
    ecPrivateInfo bytes = .error .unsupported ↔ IsUnknownCurvePrivate bytes := by
  constructor
  · intro h
    rw [ecPrivateInfo.eq_def] at h
    split at h
    · rename_i key content rest hsequence
      split at h
      · rename_i parameters hparameters
        exact ⟨key, content, rest, parameters, hsequence, hparameters,
          curveSize_eq_unsupported_iff.mp (map_eq_error_iff.mp h)⟩
      · contradiction
    · contradiction
  · rintro ⟨key, content, rest, parameters, hsequence, hparameters, hunknown⟩
    simp only [ecPrivateInfo, hsequence, Der.integerTag, hparameters,
      curveSize_eq_unsupported_iff.mpr hunknown]
    rfl

/-- A container that names an unknown algorithm is not the two numbers of an RSA key. -/
theorem anyPublic_eq_unsupported_iff :
    anyPublic bytes = .error .unsupported ↔ IsUnknownPublic bytes := by
  rw [← publicKeyInfo_eq_unsupported_iff, anyPublic]
  split
  · rename_i fault key hinfo hkey
    refine iff_of_false (by simp) fun h => ?_
    obtain ⟨identifier, stored, stored', hsequence, -⟩ := publicKeyInfo_eq_unsupported_iff.mp h
    rw [rsaPublic?.eq_def, hsequence] at hkey
    contradiction
  · exact Iff.rfl

theorem rsaPublicInfo_ne_unsupported (bytes : Bytes) :
    rsaPublicInfo bytes ≠ .error .unsupported := by
  rw [rsaPublicInfo]
  split <;> simp

theorem dsaPrivateInfo_ne_unsupported (bytes : Bytes) :
    dsaPrivateInfo bytes ≠ .error .unsupported := by
  rw [dsaPrivateInfo]
  split <;> simp

theorem encryptedInfo_ne_unsupported (bytes : Bytes) :
    encryptedInfo bytes ≠ .error .unsupported := by
  rw [encryptedInfo]
  split <;> simp

/-! ## Blocks -/

/-- Of the readers of public blocks only that of labelled public keys gives up. -/
theorem publicReader?_eq_unsupported_iff {label : Text} :
    (∃ reader, publicReader? label = some reader ∧ reader bytes = .error .unsupported)
      ↔ label = Text.ofString "PUBLIC KEY" ∧ IsUnknownPublic bytes := by
  rw [publicReader?]
  split_ifs with hinfo hrsa
  · simp [hinfo, anyPublic_eq_unsupported_iff]
  · simp [hinfo, rsaPublicInfo_ne_unsupported]
  · simp [hinfo]

/-- The labels of private blocks. -/
def privateLabels : List Text :=
  [Text.ofString "PRIVATE KEY", Text.ofString "ENCRYPTED PRIVATE KEY",
    Text.ofString "RSA PRIVATE KEY", Text.ofString "EC PRIVATE KEY",
    Text.ofString "DSA PRIVATE KEY"]

/-- Blocks with other labels have no reader. -/
theorem privateReader?_eq_none_iff {label : Text} :
    privateReader? label = none ↔ label ∉ privateLabels := by
  simp only [privateReader?, privateLabels, List.mem_cons, List.not_mem_nil, or_false, not_or]
  split_ifs <;> simp [*]

/-- A private block of two labels may name an algorithm or a curve that is not known. -/
def NamesUnknownPrivate (label : Text) (bytes : Bytes) : Prop :=
  (label = Text.ofString "PRIVATE KEY" ∧ IsUnknownPrivate bytes)
    ∨ (label = Text.ofString "EC PRIVATE KEY" ∧ IsUnknownCurvePrivate bytes)

/-- Of the readers of private blocks those of labelled private keys and of keys on curves give
up. -/
theorem privateReader?_eq_unsupported_iff {label : Text} :
    (∃ reader, privateReader? label = some reader ∧ reader bytes = .error .unsupported)
      ↔ NamesUnknownPrivate label bytes := by
  rw [privateReader?, NamesUnknownPrivate]
  have hother {known : Text} (hlabel : label = known)
      (hknown : known ≠ Text.ofString "EC PRIVATE KEY") : label ≠ Text.ofString "EC PRIVATE KEY" :=
    ne_of_eq_of_ne hlabel hknown
  split_ifs with hinfo hencrypted hrsa hec hdsa
  · rw [or_iff_left fun h => hother hinfo (by decide) h.1]
    simp [hinfo, privateKeyInfo_eq_unsupported_iff]
  · simp [hinfo, hother hencrypted (by decide), encryptedInfo_ne_unsupported]
  · simp [hinfo, hother hrsa (by decide), orMalformed_ne_unsupported]
  · rw [or_iff_right fun h => hinfo h.1]
    simp [hec, ecPrivateInfo_eq_unsupported_iff]
  · simp [hinfo, hec, dsaPrivateInfo_ne_unsupported]
  · simp [hinfo, hec]

end Container

/-! ## Documents -/

namespace LoadedKey

/-- The first block is labelled as a public key, and its algorithm is not known. -/
def HasUnknownPublic (document : Bytes) : Prop :=
  ∃ block, Pem.firstBlock? document = some block
    ∧ block.label = Text.ofString "PUBLIC KEY" ∧ Container.IsUnknownPublic block.contents

/-- The first block that is labelled as a private key is not encrypted, and its algorithm or its
curve is not known. -/
def HasUnknownPrivate (document : Bytes) : Prop :=
  ∃ front block back, Pem.blocks? document = some (front ++ block :: back)
    ∧ (∀ other ∈ front, other.label ∉ Container.privateLabels)
    ∧ block.headers.lookup (Text.ofString "Proc-Type") ≠ some (Text.ofString "4,ENCRYPTED")
    ∧ Container.NamesUnknownPrivate block.label block.contents

/-- The document names an algorithm or a curve that is not known, where a key is looked for. -/
def IsUnknownDocument (document : Bytes) : Prop :=
  (Bytes.ofAscii "PRIVATE KEY" <:+: document ∧ HasUnknownPrivate document)
    ∨ (¬Bytes.ofAscii "PRIVATE KEY" <:+: document ∧ HasUnknownPublic document)

variable {document : Bytes}

/-- A document is given up as a public key if its first block names what is not known. -/
theorem ofPublicPem_eq_unsupported_iff :
    ofPublicPem document = .error .unsupported ↔ HasUnknownPublic document := by
  rw [ofPublicPem, HasUnknownPublic]
  simp only [← Container.publicReader?_eq_unsupported_iff]
  cases Pem.firstBlock? document with
  | none => simp
  | some block =>
    simp only [Option.bind_some, Option.some.injEq, exists_eq_left']
    cases Container.publicReader? block.label with
    | none => simp
    | some reader => simp

/-- Headers that do not say so leave the data in the clear. -/
theorem isEncrypted?_eq_some_false_iff {block : Pem.Block} :
    Container.isEncrypted? block = some false ↔ block.headers.lookup (Text.ofString "Proc-Type")
      ≠ some (Text.ofString "4,ENCRYPTED") := by
  rw [Container.isEncrypted?]
  split
  · rename_i hencrypted
    cases block.headers.lookup (Text.ofString "DEK-Info") <;> simp [hencrypted]
  · rename_i hclear
    simp [hclear]

/-- A document is given up as a private key if the block that counts names what is not known. -/
theorem ofPrivatePem_eq_unsupported_iff :
    ofPrivatePem document = .error .unsupported ↔ HasUnknownPrivate document := by
  constructor
  · intro h
    rw [ofPrivatePem] at h
    split at h
    · rename_i reader block hfound
      obtain ⟨blocks, hblocks, hfirst⟩ := Option.bind_eq_some_iff.mp hfound
      -- The block that counts is the first one that has a reader; those before it have none.
      obtain ⟨front, found, back, rfl, hfound, hfront⟩ := List.findSome?_eq_some_iff.mp hfirst
      obtain ⟨reader, hreader, hpair⟩ := Option.map_eq_some_iff.mp hfound
      obtain ⟨rfl, rfl⟩ := Prod.mk.inj hpair
      split at h
      · contradiction
      · rename_i hclear
        refine ⟨front, found, back, hblocks, fun other hother => ?_,
          isEncrypted?_eq_some_false_iff.mp hclear,
          Container.privateReader?_eq_unsupported_iff.mp ⟨reader, hreader, h⟩⟩
        exact Container.privateReader?_eq_none_iff.mp
          (Option.map_eq_none_iff.mp (hfront other hother))
      · contradiction
    · contradiction
  · rintro ⟨front, block, back, hblocks, hfront, hclear, hunknown⟩
    obtain ⟨reader, hreader, hfails⟩ := Container.privateReader?_eq_unsupported_iff.mpr hunknown
    -- Conversely, the search stops at the block that is named.
    have hfirst : (front ++ block :: back).findSome? (fun block =>
        (Container.privateReader? block.label).map fun reader => (reader, block))
          = some (reader, block) := by
      refine List.findSome?_eq_some_iff.mpr ⟨front, block, back, rfl, ?_, fun other hother => ?_⟩
      · rw [hreader, Option.map_some]
      · rw [Container.privateReader?_eq_none_iff.mpr (hfront other hother), Option.map_none]
    simp only [ofPrivatePem, hblocks, Option.bind_some, hfirst,
      isEncrypted?_eq_some_false_iff.mpr hclear, hfails]

/-- A document is given up if it names what is not known where a key is looked for. -/
theorem ofPem_eq_unsupported_iff :
    ofPem document = .error .unsupported ↔ IsUnknownDocument document := by
  rw [ofPem, IsUnknownDocument, ← Bytes.includes_iff]
  split
  · rename_i hprivate
    simp [hprivate, ofPrivatePem_eq_unsupported_iff]
  · rename_i hpublic
    simp [hpublic, ofPublicPem_eq_unsupported_iff]

end LoadedKey

end FleetToken
