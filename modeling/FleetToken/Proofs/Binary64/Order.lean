import FleetToken.Proofs.Binary64.Rounding

/-!
# Rounding keeps the order

Of two quotients with one denominator the greater one is not rounded to the lesser number. At one
scale this is so because rounding to an integer is monotone, and at two scales a power of two lies
between the significands.

## Main definitions

* `Binary64.RoundsTo`: the significand and the scale that a quotient is rounded to.
* `Binary64.AtMost`: the order of finite numbers by their exact values.

## Main results

* `Binary64.roundHalfEven_mono`: rounding to an integer is monotone.
* `Binary64.RoundsTo.le`: rounding to a significand and a scale is monotone.
* `Binary64.ofQuotient_mono`: rounding to the nearest number is monotone.
-/

namespace FleetToken.Binary64

/-! ## Magnitudes -/

/-- A greater numerator is not rounded to less. -/
theorem roundHalfEven_mono {den : Nat} (hden : 0 < den) {a b : Nat} (hle : a ≤ b) :
    roundHalfEven a den ≤ roundHalfEven b den := by
  by_contra hgt
  -- The greater integer would lie half a step above `b` and at most half a step above `a`.
  have hlow : ¬2 * a < (2 * roundHalfEven a den - 1) * den := by
    intro h
    exact Nat.lt_irrefl _ (roundHalfEven_lt h)
  have hhigh : ¬(2 * roundHalfEven a den - 1) * den < 2 * b := by
    intro h
    exact hgt (le_roundHalfEven hden h)
  have heq : a = b := by omega
  rw [heq] at hgt
  exact hgt (Nat.le_refl _)

/-- A quotient is rounded to a significand that is divided by a power of two. -/
inductive RoundsTo (den : Nat) : (num significand scale : Nat) → Prop where
  /-- Zero has no leading digit. -/
  | zero : RoundsTo den 0 0 0
  /-- The scaled quotient has its leading digit at `2 ^ 52`. -/
  | scaled {num scale : Nat} (hlow : 2 ^ 52 * den ≤ num * 2 ^ scale)
      (hhigh : num * 2 ^ scale < 2 ^ 53 * den) :
      RoundsTo den num (roundHalfEven (num * 2 ^ scale) den) scale

/-- Quotients with one denominator are rounded in their order, also at two scales. -/
theorem RoundsTo.le {den : Nat} (hden : 0 < den) {a b m n s t : Nat} (ha : RoundsTo den a m s)
    (hb : RoundsTo den b n t) (hle : a ≤ b) : m * 2 ^ t ≤ n * 2 ^ s := by
  cases ha with
  | zero =>
    rw [Nat.zero_mul]
    exact Nat.zero_le _
  | scaled haLow haHigh =>
  cases hb with
  | zero =>
    have hnone : 2 ^ 52 * den ≤ 0 := by
      rwa [Nat.le_zero.mp hle, Nat.zero_mul] at haLow
    omega
  | scaled hbLow hbHigh =>
  rcases Nat.lt_trichotomy s t with hlt | rfl | hgt
  -- The greater quotient cannot have the smaller leading digit.
  · have hdouble : a * 2 ^ s * 2 ≤ b * 2 ^ t := by
      rw [Nat.mul_assoc, ← Nat.pow_succ]
      exact Nat.mul_le_mul hle (Nat.pow_le_pow_right (by decide) hlt)
    omega
  · exact Nat.mul_le_mul_right _ (roundHalfEven_mono hden (Nat.mul_le_mul_right _ hle))
  -- The lesser quotient is rounded to at most `2 ^ 53` and the greater one to at least `2 ^ 52`.
  · calc roundHalfEven (a * 2 ^ s) den * 2 ^ t ≤ 2 ^ 53 * 2 ^ t :=
          Nat.mul_le_mul_right _ (roundHalfEven_le_of_le_mul hden haHigh.le)
      _ = 2 ^ 52 * 2 ^ (t + 1) := by ring
      _ ≤ 2 ^ 52 * 2 ^ s := Nat.mul_le_mul_left _ (Nat.pow_le_pow_right (by decide) hgt)
      _ ≤ roundHalfEven (b * 2 ^ t) den * 2 ^ s :=
          Nat.mul_le_mul_right _ (le_roundHalfEven_of_mul_le hden hbLow)

/-- A quotient below `2 ^ 53` is rounded at some scale, and the number represents what it is rounded
to. -/
theorem exists_roundsTo (negative : Bool) {num den : Nat} (hden : 0 < den)
    (hsmall : num < 2 ^ 53 * den) (hlarge : den ≤ 2 ^ 20) :
    ∃ significand scale, RoundsTo den num significand scale
      ∧ (ofRatio negative num den).Represents negative significand scale := by
  rcases Nat.eq_zero_or_pos num with rfl | hpos
  · exact ⟨0, 0, .zero, represents_ofRatio_zero negative den⟩
  · obtain ⟨scale, hlow, hhigh, hrepresents⟩ := exists_represents_ofRatio negative hpos hden hsmall
      (hlarge.trans (Nat.le_mul_of_pos_left _ hpos))
    exact ⟨_, scale, .scaled hlow hhigh, hrepresents⟩

/-! ## Numbers with their sign -/

/-- Both numbers are finite, and the first is not the greater one. -/
def AtMost (x y : Binary64) : Prop :=
  ∃ (num : Int) (den : Nat) (num' : Int) (den' : Nat), x.ratio? = some (num, den)
    ∧ y.ratio? = some (num', den') ∧ num * den' ≤ num' * den

/-- The integer with a sign and a magnitude. -/
def signed (negative : Bool) (magnitude : Nat) : Int :=
  if negative then -(magnitude : Int) else magnitude

theorem signed_mul (negative : Bool) (a b : Nat) :
    signed negative a * b = signed negative (a * b) := by
  cases negative with
  | true => simp [signed]
  | false => simp [signed]

/-- Numbers stand in the order of what they represent. -/
theorem Represents.atMost {x y : Binary64} {negative negative' : Bool} {m n s t : Nat}
    (hx : x.Represents negative m s) (hy : y.Represents negative' n t)
    (hle : signed negative (m * 2 ^ t) ≤ signed negative' (n * 2 ^ s)) : x.AtMost y := by
  obtain ⟨num, den, hden, hvalue, hratio⟩ := hx
  obtain ⟨num', den', hden', hvalue', hratio'⟩ := hy
  refine ⟨signed negative num, den, signed negative' num', den', hratio, hratio', ?_⟩
  -- Both sides are scaled by the two powers of two, where the significands can be compared.
  have hleft : signed negative num * den' * (2 ^ s * 2 ^ t : Nat)
      = signed negative (m * 2 ^ t) * (den * den' : Nat) := by
    rw [signed_mul, signed_mul, signed_mul]
    congr 1
    calc num * den' * (2 ^ s * 2 ^ t) = num * 2 ^ s * (den' * 2 ^ t) := by ring
      _ = m * 2 ^ t * (den * den') := by rw [hvalue]; ring
  have hright : signed negative' num' * den * (2 ^ s * 2 ^ t : Nat)
      = signed negative' (n * 2 ^ s) * (den * den' : Nat) := by
    rw [signed_mul, signed_mul, signed_mul]
    congr 1
    calc num' * den * (2 ^ s * 2 ^ t) = num' * 2 ^ t * (den * 2 ^ s) := by ring
      _ = n * 2 ^ s * (den * den') := by rw [hvalue']; ring
  have hscale : (0 : Int) < (2 ^ s * 2 ^ t : Nat) :=
    Int.natCast_pos.mpr (Nat.mul_pos (Nat.two_pow_pos s) (Nat.two_pow_pos t))
  refine Int.le_of_mul_le_mul_right ?_ hscale
  rw [hleft, hright]
  exact Int.mul_le_mul_of_nonneg_right hle (Int.natCast_nonneg _)

/-- Rounding keeps the order of quotients with one denominator. -/
theorem ofQuotient_mono {den : Nat} (hden : 0 < den) (hlarge : den ≤ 2 ^ 20) {m n : Int}
    (hm : m.natAbs < 2 ^ 53 * den) (hn : n.natAbs < 2 ^ 53 * den) (hle : m ≤ n) :
    (ofQuotient m den).AtMost (ofQuotient n den) := by
  obtain ⟨a, s, ha, hma⟩ := exists_roundsTo (decide (m < 0)) hden hm hlarge
  obtain ⟨b, t, hb, hnb⟩ := exists_roundsTo (decide (n < 0)) hden hn hlarge
  refine hma.atMost hnb ?_
  rcases Int.lt_or_le n 0 with hneg | hnonneg
  -- Of two negative numbers the greater one has the smaller magnitude.
  · have hmagnitude := hb.le hden ha (show n.natAbs ≤ m.natAbs by omega)
    simp only [signed, decide_eq_true hneg, decide_eq_true (Int.lt_of_le_of_lt hle hneg), if_true]
    omega
  · simp only [signed, decide_eq_false (Int.not_lt.mpr hnonneg), Bool.false_eq_true, if_false,
      decide_eq_true_eq]
    split
    · omega
    · have hmagnitude := ha.le hden hb (show m.natAbs ≤ n.natAbs by omega)
      omega

end FleetToken.Binary64
