import FleetToken.Crypto.Rsa
import FleetToken.Proofs.Bytes.Number
import FleetToken.Proofs.Number.Modular
import Mathlib.NumberTheory.LucasLehmer

/-!
# RSA signatures are right

A private key whose factors are different primes signs every message that its modulus has room
for, and its public half accepts the signature.

## Main definitions

* `Rsa.PrivateKey.IsGenuine`: the factors are primes and the exponents belong together.

## Main results

* `Rsa.PrivateKey.isGenuine_of_isConsistent`: a loaded key with prime factors is genuine.
* `Rsa.verify_of_sign?`: what a genuine key signs is accepted under its public half.
* `Rsa.exists_sign?`: a modulus of sixty-two bytes has room for a digest of thirty-two.
-/

namespace FleetToken

/-! ## Digests and blocks -/

/-- The digest has thirty-two bytes. -/
theorem Digest.length_sha256 (message : Bytes) : (Digest.sha256 message).length = 32 := by
  simp [Digest.sha256, Digest.Sha2.run, Digest.Sha2.State.toList, Bytes.length_ofNatBig]

namespace Rsa

/-- A block has the wished size and begins with a zero byte. -/
theorem block?_eq_some {size : Nat} {hash : Hash} {message block : Bytes}
    (h : block? size hash message = some block) :
    block.length = size ∧ ∃ rest, block = 0x00 :: rest := by
  simp only [block?, Option.ite_none_right_eq_some, Option.some.injEq] at h
  obtain ⟨hroom, rfl⟩ := h
  refine ⟨?_, _, rfl⟩
  simp only [List.cons_append, List.length_cons, List.length_append, List.length_replicate]
    at hroom ⊢
  omega

/-- Sixty-two bytes have room for a digest of thirty-two. -/
theorem exists_block? {size : Nat} (h : 62 ≤ size) (message : Bytes) :
    ∃ block, block? size .sha256 message = some block := by
  -- Nineteen bytes of header and thirty-two of digest, with eleven of padding at least.
  have hlength : (Hash.sha256.header ++ Hash.sha256.digest message).length = 51 := by
    rw [List.length_append, Hash.digest, Digest.length_sha256]
    rfl
  rw [block?, if_pos (by omega)]
  exact ⟨_, rfl⟩

/-- The modulus has as many bytes as its size says. -/
theorem modulus_bounds {key : PublicKey} (h : key.modulus ≠ 0) :
    0x100 ^ (key.size - 1) ≤ key.modulus ∧ key.modulus < 0x100 ^ key.size := by
  -- The size is counted in bits and rounded up to bytes.
  have hbytes (k : Nat) : (0x100 : Nat) ^ k = 2 ^ (8 * k) := by
    rw [Nat.pow_mul]
  rw [hbytes, hbytes, PublicKey.size]
  constructor
  · exact (Nat.le_log2 h).mp (by omega)
  · exact (Nat.log2_lt h).mp (by omega)

/-! ## Genuine keys -/

/-- The factors of the modulus are different primes, and the exponents undo each other. -/
structure PrivateKey.IsGenuine (key : PrivateKey) : Prop where
  /-- The first factor is a prime. -/
  prime₁ : key.prime₁.Prime
  /-- The second factor is a prime. -/
  prime₂ : key.prime₂.Prime
  /-- The factors are different. -/
  ne : key.prime₁ ≠ key.prime₂
  /-- The factors make the modulus. -/
  modulus_eq : key.publicKey.modulus = key.prime₁ * key.prime₂
  /-- The exponents undo each other modulo the first factor. -/
  exponent₁ : key.publicKey.exponent * key.exponent % (key.prime₁ - 1) = 1 % (key.prime₁ - 1)
  /-- The exponents undo each other modulo the second factor. -/
  exponent₂ : key.publicKey.exponent * key.exponent % (key.prime₂ - 1) = 1 % (key.prime₂ - 1)

namespace PrivateKey

/-- The check that is made when a key is loaded leaves only the primality of the factors open. -/
theorem isGenuine_of_isConsistent {key : PrivateKey} (h : key.IsConsistent = true)
    (hprime₁ : key.prime₁.Prime) (hprime₂ : key.prime₂.Prime) : key.IsGenuine := by
  simp only [IsConsistent, Bool.and_eq_true, beq_iff_eq] at h
  obtain ⟨⟨⟨⟨⟨⟨hmodulus, -⟩, hexponent₁⟩, hexponent₂⟩, -⟩, -⟩, hcoefficient⟩ := h
  refine ⟨hprime₁, hprime₂, ?_, hmodulus.1.1.1, hexponent₁, hexponent₂⟩
  -- Equal factors would leave no inverse of the second one modulo the first.
  intro hne
  have htwo := hprime₁.two_le
  rw [← hne, Nat.mul_mod_left, Nat.mod_eq_of_lt htwo] at hcoefficient
  exact absurd hcoefficient Nat.zero_ne_one

/-- Different primes are not both two, so that the product of the exponents is not zero. -/
theorem IsGenuine.exponents_pos {key : PrivateKey} (h : key.IsGenuine) :
    0 < key.publicKey.exponent * key.exponent := by
  refine Nat.pos_of_ne_zero fun hzero => h.ne ?_
  -- An exponent of zero is one modulo `p - 1` only if `p - 1` is one.
  have htwo {p : Nat} (hp : p.Prime) (hmod : 0 % (p - 1) = 1 % (p - 1)) : p = 2 := by
    have hge := hp.two_le
    by_contra hne
    rw [Nat.zero_mod, Nat.mod_eq_of_lt (by omega)] at hmod
    exact absurd hmod Nat.zero_ne_one
  rw [htwo h.prime₁ (hzero ▸ h.exponent₁), htwo h.prime₂ (hzero ▸ h.exponent₂)]

end PrivateKey

/-- What a genuine key signs is accepted under its public half. -/
theorem verify_of_sign? {key : PrivateKey} (hkey : key.IsGenuine) {hash : Hash}
    {message signature : Bytes} (h : sign? key hash message = some signature) :
    verify key.publicKey hash message signature = true := by
  simp only [sign?, Option.map_eq_some_iff] at h
  obtain ⟨block, hblock, rfl⟩ := h
  obtain ⟨hlength, rest, hrest⟩ := block?_eq_some hblock
  have hmodulus : key.publicKey.modulus ≠ 0 := by
    rw [hkey.modulus_eq]
    exact Nat.mul_ne_zero hkey.prime₁.ne_zero hkey.prime₂.ne_zero
  obtain ⟨hlow, hhigh⟩ := modulus_bounds hmodulus
  -- The zero byte in front keeps the block below the modulus.
  have hsmall : block.toNatBig < key.publicKey.modulus := by
    have hbound := Bytes.toNatBig_lt rest
    rw [hrest, List.length_cons] at hlength
    rw [hrest, Bytes.toNatBig_zero_cons]
    rw [← hlength, Nat.add_sub_cancel] at hlow
    exact hbound.trans_le hlow
  have hpower : block.toNatBig ^ key.exponent % key.publicKey.modulus < key.publicKey.modulus :=
    Nat.mod_lt _ (Nat.pos_of_ne_zero hmodulus)
  -- The public exponent undoes the private one, as the exponents of a genuine key do.
  have hundo : (block.toNatBig ^ key.exponent % key.publicKey.modulus) ^ key.publicKey.exponent
      % key.publicKey.modulus = block.toNatBig := by
    have hround := pow_modEq_of_primes hkey.prime₁ hkey.prime₂ hkey.ne hkey.exponents_pos
      hkey.exponent₁ hkey.exponent₂ block.toNatBig
    rw [← hkey.modulus_eq] at hround
    rw [← Nat.pow_mod, ← Nat.pow_mul, Nat.mul_comm, hround, Nat.mod_eq_of_lt hsmall]
  -- The number is written as the block again, so the check compares two equal blocks.
  have hblockAgain : Bytes.ofNatBig key.publicKey.size block.toNatBig = block := by
    rw [← hlength]
    exact Bytes.ofNatBig_toNatBig block
  simp only [verify, powMod_eq, Bytes.length_ofNatBig,
    Bytes.toNatBig_ofNatBig (hpower.trans hhigh), hundo, hblockAgain, hblock, BEq.rfl,
    Bool.true_and, Bool.and_true, decide_eq_true_eq]
  exact hpower

/-- A modulus of sixty-two bytes has room for every message. -/
theorem exists_sign? {key : PrivateKey} (h : 62 ≤ key.publicKey.size) (message : Bytes) :
    ∃ signature, sign? key .sha256 message = some signature := by
  obtain ⟨block, hblock⟩ := exists_block? h message
  exact ⟨_, by rw [sign?, hblock]; rfl⟩

/-! ## A key with Mersenne primes -/

/-- A key whose factors are the Mersenne primes with 521 and 607 binary digits. -/
def mersenneKey : PrivateKey where
  publicKey := ⟨mersenne 521 * mersenne 607, 65537⟩
  exponent := (10880 * (mersenne 521 - 1) * (mersenne 607 - 1) + 1) / 65537
  prime₁ := mersenne 521
  prime₂ := mersenne 607
  exponent₁ := (10880 * (mersenne 521 - 1) * (mersenne 607 - 1) + 1) / 65537 % (mersenne 521 - 1)
  exponent₂ := (10880 * (mersenne 521 - 1) * (mersenne 607 - 1) + 1) / 65537 % (mersenne 607 - 1)
  coefficient := powMod (mersenne 607) (mersenne 521 - 2) (mersenne 521)

/-- The key would be loaded from a document. -/
theorem mersenneKey_isConsistent : mersenneKey.IsConsistent = true := by
  decide +kernel

/-- Mersenne numbers are shown to be primes by the test of Lucas and Lehmer. -/
theorem mersenneKey_isGenuine : mersenneKey.IsGenuine :=
  PrivateKey.isGenuine_of_isConsistent mersenneKey_isConsistent
    (lucas_lehmer_sufficiency 521 (by norm_num) (by norm_num))
    (lucas_lehmer_sufficiency 607 (by norm_num) (by norm_num))

theorem mersenneKey_size : 62 ≤ mersenneKey.publicKey.size := by
  decide +kernel

end Rsa

end FleetToken
