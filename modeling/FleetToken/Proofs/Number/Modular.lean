import FleetToken.Number.Modular
import Mathlib.FieldTheory.Finite.Basic

/-!
# Powers modulo a number

Squaring computes the power, and a power whose exponent is one more than a multiple of `p - 1` is
the number itself modulo the prime `p`.

## Main results

* `powMod_eq`: the computed power is the power.
* `pow_modEq_of_primes`: exponents that are one modulo each prime less one, modulo the product.
-/

namespace FleetToken

/-- Squaring computes the power. By induction on the binary digits of the exponent. -/
theorem powModBits_eq (modulus : Nat) : ∀ bits base exponent, exponent < 2 ^ bits →
    powModBits modulus bits base exponent = base ^ exponent % modulus := by
  intro bits
  induction bits with
  | zero =>
    intro base exponent h
    obtain rfl : exponent = 0 := by simpa using h
    rw [powModBits, pow_zero]
  | succ bits ih =>
    intro base exponent h
    rw [pow_succ] at h
    -- The exponent without its last digit has one digit less.
    have htail : powModBits modulus bits (base * base % modulus) (exponent / 2)
        = (base ^ 2) ^ (exponent / 2) % modulus := by
      rw [ih _ _ (by omega), ← pow_two, ← Nat.pow_mod]
    have hparts := Nat.div_add_mod exponent 2
    rw [powModBits, htail]
    -- The last digit decides whether one more factor is left over.
    split
    · rename_i hodd
      rw [hodd] at hparts
      rw [Nat.mul_mod_mod, ← pow_mul, ← pow_succ', hparts]
    · rename_i heven
      have hzero : exponent % 2 = 0 := by omega
      rw [hzero, Nat.add_zero] at hparts
      rw [← pow_mul, hparts]

/-- The computed power is the power. -/
theorem powMod_eq (base exponent modulus : Nat) :
    powMod base exponent modulus = base ^ exponent % modulus := by
  rw [powMod, powModBits_eq _ _ _ _ Nat.lt_log2_self, ← Nat.pow_mod]

/-- Modulo a prime, exponents count modulo the prime less one. -/
theorem pow_modEq_of_prime {p k : Nat} (hp : p.Prime) (hk : 0 < k)
    (h : k % (p - 1) = 1 % (p - 1)) (x : Nat) : x ^ k ≡ x [MOD p] := by
  by_cases hx : p ∣ x
  -- A multiple of the prime is zero on both sides.
  · have hpow : p ∣ x ^ k := dvd_pow hx hk.ne'
    exact (Nat.modEq_zero_iff_dvd.mpr hpow).trans (Nat.modEq_zero_iff_dvd.mpr hx).symm
  -- Otherwise Fermat's theorem takes the multiple of `p - 1` away.
  · obtain ⟨j, hj⟩ : p - 1 ∣ k - 1 := (Nat.modEq_iff_dvd' hk).mp (Nat.ModEq.symm h)
    have hcoprime : x.Coprime p := (Nat.coprime_comm.mp ((Nat.Prime.coprime_iff_not_dvd hp).mpr hx))
    have hfermat : x ^ (p - 1) ≡ 1 [MOD p] := by
      have htotient := Nat.ModEq.pow_totient hcoprime
      rwa [Nat.totient_prime hp] at htotient
    calc x ^ k = x * (x ^ (p - 1)) ^ j := by
          rw [← pow_mul, ← hj, ← pow_succ', Nat.sub_add_cancel hk]
      _ ≡ x * 1 ^ j [MOD p] := (hfermat.pow j).mul_left x
      _ = x := by rw [one_pow, mul_one]

/-- Modulo a product of two primes, exponents that are one modulo each prime less one leave every
number as it is. -/
theorem pow_modEq_of_primes {p q k : Nat} (hp : p.Prime) (hq : q.Prime) (hne : p ≠ q) (hk : 0 < k)
    (hkp : k % (p - 1) = 1 % (p - 1)) (hkq : k % (q - 1) = 1 % (q - 1)) (x : Nat) :
    x ^ k ≡ x [MOD p * q] :=
  (Nat.modEq_and_modEq_iff_modEq_mul ((Nat.coprime_primes hp hq).mpr hne)).mp
    ⟨pow_modEq_of_prime hp hk hkp x, pow_modEq_of_prime hq hk hkq x⟩

end FleetToken
