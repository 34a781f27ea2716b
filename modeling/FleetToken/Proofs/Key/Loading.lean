import FleetToken.Key.File
import FleetToken.Proofs.Outcome

/-!
# Loaded pairs are honest

Nothing keeps a caller from putting a pair together whose label is wrong or whose halves do not
belong together. The loaders do not: whatever they read, they build the pair of a single key under
its own family.

## Main definitions

* `KeyPair.IsHonest`: the label is right and the halves belong together.
* `KeyPair.IsLoaded`: one of the loaders gives the pair.

## Main results

* `KeyPair.IsLoaded.isHonest`: every loader builds honest pairs.
-/

namespace FleetToken

theorem PrivateKey.family_publicKey (key : PrivateKey) : key.publicKey.family = key.family := by
  cases key with
  | ed25519 seed => rfl
  | rsa key => rfl

namespace KeyPair

/-- The label of a pair is right, and its halves belong together. -/
structure IsHonest (pair : KeyPair) : Prop where
  /-- The label is the family of the public half. -/
  family_eq : pair.family = pair.publicKey.family
  /-- The public half is that of the private one. -/
  publicKey_eq : ∀ key, pair.privateKey = some key → key.publicKey = pair.publicKey

/-- One of the loaders gives the pair. -/
inductive IsLoaded (pair : KeyPair) : Prop where
  /-- The pair of a key object. -/
  | key {loaded : LoadedKey} (h : ofLoaded loaded = .ok pair)
  /-- The pair of the bytes of a seed. -/
  | seed {bytes : Bytes} (h : ofSeed bytes = .ok pair)
  /-- The pair of a PEM document. -/
  | pem {document : KeyMaterial} (h : ofPem document = .ok pair)
  /-- The pair of a seed file. -/
  | seedFile {store : FileStore} {path : Text} (h : store.seedPair path = .ok pair)
  /-- The pair of a file with a seed or a PEM document. -/
  | keyFile {store : FileStore} {path : Text} (h : store.keyPair path = .ok pair)

variable {pair : KeyPair}

/-- A pair of a private key is labelled with its family. -/
theorem isHonest_ofPrivate (key : PrivateKey) : (ofPrivate key).IsHonest where
  family_eq := (PrivateKey.family_publicKey key).symm
  publicKey_eq _ hother := congrArg PrivateKey.publicKey (Option.some.inj hother).symm

/-- A pair of a public key is labelled with its family. -/
theorem isHonest_ofPublic (key : PublicKey) : (ofPublic key).IsHonest where
  family_eq := rfl
  publicKey_eq _ hother := absurd hother (Option.some_ne_none _).symm

/-- Pairs in documents are labelled with their families. -/
theorem isHonest_of_ofPemBytes {document : Bytes} (h : ofPemBytes document = .ok pair) :
    pair.IsHonest := by
  unfold ofPemBytes at h
  split at h
  · split at h
    · obtain rfl := Except.ok.inj h
      exact isHonest_ofPublic _
    · obtain rfl := Except.ok.inj h
      exact isHonest_ofPrivate _
    · contradiction
    · contradiction
  · contradiction

/-- Pairs in key files are labelled with their families. -/
theorem isHonest_of_ofFile {contents : Bytes} (h : ofFile contents = .ok pair) : pair.IsHonest := by
  unfold ofFile at h
  split at h
  · split at h
    · obtain rfl := Except.ok.inj h
      exact isHonest_ofPrivate _
    · contradiction
  · exact isHonest_of_ofPemBytes h

/-- Every loader builds honest pairs. -/
theorem IsLoaded.isHonest (h : pair.IsLoaded) : pair.IsHonest := by
  -- One case for each loader; in the end all of them build a pair from one half of a key.
  cases h with
  | @key loaded h =>
    cases loaded with
    | publicHalf key =>
      obtain rfl := Except.ok.inj h
      exact isHonest_ofPublic key
    | privateHalf key =>
      obtain rfl := Except.ok.inj h
      exact isHonest_ofPrivate key
    | foreign kind half => contradiction
  | seed h =>
    obtain ⟨seed, -, rfl⟩ := map_eq_ok_iff.mp h
    exact isHonest_ofPrivate _
  | pem h =>
    unfold ofPem at h
    split at h
    · exact isHonest_of_ofPemBytes h
    · contradiction
  | seedFile h =>
    obtain ⟨seed, -, rfl⟩ := map_eq_ok_iff.mp h
    exact isHonest_ofPrivate _
  | keyFile h =>
    obtain ⟨contents, -, hcontents⟩ := bind_eq_ok_iff.mp h
    exact isHonest_of_ofFile hcontents

end KeyPair

end FleetToken
