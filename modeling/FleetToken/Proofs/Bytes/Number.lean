import FleetToken.Bytes.Basic
import Mathlib.Algebra.Order.Ring.Nat
import Mathlib.Data.List.Induction
import Mathlib.Tactic.Common

/-!
# Numbers in bytes

Bytes and numbers below the matching power of 256 are two writings of one thing, whichever byte
comes first.

## Main results

* `Bytes.toNatBig_ofNatBig`: a number that fits is read back.
* `Bytes.ofNatBig_toNatBig`: bytes are written again.
-/

namespace FleetToken.Bytes

/-- A number is written with as many bytes as are wanted. -/
theorem length_ofNatBig (width n : Nat) : (ofNatBig width n).length = width := by
  have hlength : ∀ n, (ofNatLittle width n).length = width := by
    induction width with
    | zero => exact fun _ => rfl
    | succ width ih => exact fun n => by rw [ofNatLittle, List.length_cons, ih]
  rw [ofNatBig, List.length_reverse, hlength]

/-- The last byte counts as it is, and those before it by 256. -/
theorem toNatBig_concat (bytes : Bytes) (b : UInt8) :
    toNatBig (bytes ++ [b]) = toNatBig bytes * 0x100 + b.toNat := by
  simp [toNatBig, List.foldl_append]

/-- The first byte counts by the power that the bytes behind it leave to it. -/
theorem toNatBig_cons (b : UInt8) (bytes : Bytes) :
    toNatBig (b :: bytes) = b.toNat * 0x100 ^ bytes.length + toNatBig bytes := by
  induction bytes using List.reverseRecOn with
  | nil => simp [toNatBig]
  | append_singleton bytes last ih =>
    rw [← List.cons_append, toNatBig_concat, toNatBig_concat, ih, List.length_append,
      List.length_singleton, Nat.pow_succ, Nat.add_mul, Nat.mul_assoc, Nat.add_assoc]

theorem toNatBig_reverse (bytes : Bytes) : toNatBig bytes.reverse = toNatLittle bytes := by
  induction bytes with
  | nil => rfl
  | cons b bytes ih =>
    -- The first byte becomes the last, where it counts as it is.
    rw [List.reverse_cons, toNatBig_concat, ih, toNatLittle]
    omega

/-- Bytes are a number below the power of 256 for their length. -/
theorem toNatLittle_lt (bytes : Bytes) : toNatLittle bytes < 0x100 ^ bytes.length := by
  induction bytes with
  | nil => exact Nat.one_pos
  | cons b bytes ih =>
    have hb := b.toNat_lt
    rw [toNatLittle, List.length_cons, Nat.pow_succ]
    omega

/-- A number that has room is read as it was written. -/
theorem toNatLittle_ofNatLittle {width n : Nat} (h : n < 0x100 ^ width) :
    toNatLittle (ofNatLittle width n) = n := by
  induction width generalizing n with
  | zero =>
    obtain rfl : n = 0 := by simpa using h
    rfl
  | succ width ih =>
    rw [Nat.pow_succ] at h
    -- The low byte and the rest, put together again.
    rw [ofNatLittle, toNatLittle, ih (by omega), UInt8.toNat_ofNat']
    omega

/-- Bytes are written as they were read. -/
theorem ofNatLittle_toNatLittle (bytes : Bytes) :
    ofNatLittle bytes.length (toNatLittle bytes) = bytes := by
  induction bytes with
  | nil => rfl
  | cons b bytes ih =>
    have hb := b.toNat_lt
    have hlow : (b.toNat + 0x100 * toNatLittle bytes) % 0x100 = b.toNat := by omega
    have hhigh : (b.toNat + 0x100 * toNatLittle bytes) / 0x100 = toNatLittle bytes := by omega
    rw [List.length_cons, toNatLittle, ofNatLittle, hlow, hhigh, ih, UInt8.ofNat_toNat]

/-- Bytes are a number below the power of 256 for their length. -/
theorem toNatBig_lt (bytes : Bytes) : toNatBig bytes < 0x100 ^ bytes.length := by
  rw [← List.reverse_reverse bytes, toNatBig_reverse, List.length_reverse]
  exact toNatLittle_lt bytes.reverse

/-- A number that fits is read back. -/
theorem toNatBig_ofNatBig {width n : Nat} (h : n < 0x100 ^ width) :
    toNatBig (ofNatBig width n) = n := by
  rw [ofNatBig, toNatBig_reverse, toNatLittle_ofNatLittle h]

/-- Bytes are written again. -/
theorem ofNatBig_toNatBig (bytes : Bytes) : ofNatBig bytes.length (toNatBig bytes) = bytes := by
  have h := ofNatLittle_toNatLittle bytes.reverse
  rw [← toNatBig_reverse, List.reverse_reverse, List.length_reverse] at h
  rw [ofNatBig, h, List.reverse_reverse]

/-- A zero byte in front counts for nothing. -/
theorem toNatBig_zero_cons (bytes : Bytes) : toNatBig (0x00 :: bytes) = toNatBig bytes := by
  simp [toNatBig_cons]

end FleetToken.Bytes
