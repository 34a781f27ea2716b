import FleetToken.Binary64.Basic
import Mathlib.Algebra.Order.Ring.Nat
import Mathlib.Tactic.Ring

/-!
# Rounding to binary64

A quotient below `2 ^ 53` that is not tiny is scaled by a power of two so that it lies between
`2 ^ 52` and `2 ^ 53`, and rounded to an integer there. The number that comes out stands for this
integer, scaled back.

## Main definitions

* `Binary64.Represents`: a finite number by its sign, significand and scale.

## Main results

* `Binary64.roundHalfEven_lt`, `Binary64.le_roundHalfEven`: rounding to an integer keeps to the
  side of a half-integer.
* `Binary64.roundHalfEven_le_of_le_mul`, `Binary64.le_roundHalfEven_of_mul_le`: rounding to an
  integer keeps to the side of an integer.
* `Binary64.exists_represents_ofRatio`: the number that a quotient is rounded to.
* `Binary64.Represents.truncate?_eq`: its integer part.
* `Binary64.nonneg_of_ratio?_ofQuotient`: rounding keeps the sign.
-/

namespace FleetToken.Binary64

/-! ## Rounding to an integer -/

section RoundHalfEven

variable {num den bound : Nat}

theorem twice_eq (num den : Nat) : 2 * num = 2 * (num / den) * den + 2 * (num % den) := by
  have h := Nat.div_add_mod num den
  calc 2 * num = 2 * (den * (num / den) + num % den) := by rw [h]
    _ = 2 * (num / den) * den + 2 * (num % den) := by ring

/-- A quotient below a half-integer is not rounded beyond it. -/
theorem roundHalfEven_lt (h : 2 * num < (2 * bound - 1) * den) : roundHalfEven num den < bound := by
  have hbound : 0 < bound := by
    refine Nat.pos_of_ne_zero fun hzero => ?_
    rw [hzero, Nat.mul_zero, Nat.zero_sub, Nat.zero_mul] at h
    exact Nat.not_lt_zero _ h
  have htwice := twice_eq num den
  -- In each case the rounded quotient times the denominator is still below the bound.
  have hfloor : num / den < bound := by
    by_contra hge
    have hmul := Nat.mul_le_mul_right den (show 2 * bound - 1 ≤ 2 * (num / den) by omega)
    omega
  rw [roundHalfEven]
  split
  · exact hfloor
  · rename_i hgt
    have hmore := Nat.compare_eq_gt.mp hgt
    by_contra hge
    have hmul := Nat.mul_le_mul_right den (show 2 * bound - 1 ≤ 2 * (num / den) + 1 by omega)
    rw [Nat.add_mul] at hmul
    omega
  · rename_i heq
    have hhalf := Nat.compare_eq_eq.mp heq
    have hmul : (2 * (num / den) + 1) * den < (2 * bound - 1) * den := by
      rw [Nat.add_mul]
      omega
    have hlt := Nat.lt_of_mul_lt_mul_right hmul
    split
    · omega
    · omega

/-- A quotient above a half-integer is not rounded below it. -/
theorem le_roundHalfEven (hden : 0 < den) (h : (2 * bound - 1) * den < 2 * num) :
    bound ≤ roundHalfEven num den := by
  have htwice := twice_eq num den
  have hrest := Nat.mod_lt num hden
  rw [roundHalfEven]
  -- Below half, above half, or exactly half, where the even neighbour is taken.
  split
  · rename_i hlt
    have hless := Nat.compare_eq_lt.mp hlt
    have hmul : (2 * bound - 1) * den < (2 * (num / den) + 1) * den := by
      rw [Nat.add_mul]
      omega
    have := Nat.lt_of_mul_lt_mul_right hmul
    omega
  · have hmul : (2 * bound - 1) * den < (2 * (num / den) + 2) * den := by
      rw [Nat.add_mul]
      omega
    have := Nat.lt_of_mul_lt_mul_right hmul
    omega
  · rename_i heq
    have hhalf := Nat.compare_eq_eq.mp heq
    have hmul : (2 * bound - 1) * den < (2 * (num / den) + 1) * den := by
      rw [Nat.add_mul]
      omega
    have := Nat.lt_of_mul_lt_mul_right hmul
    split
    · omega
    · omega

/-- An integer that a quotient reaches is reached by the rounded quotient. -/
theorem le_roundHalfEven_of_mul_le (hden : 0 < den) (h : bound * den ≤ num) :
    bound ≤ roundHalfEven num den := by
  rcases Nat.eq_zero_or_pos bound with rfl | hpos
  · exact Nat.zero_le _
  · have hbound := Nat.mul_le_mul_right den hpos
    refine le_roundHalfEven hden ?_
    rw [Nat.sub_mul, Nat.mul_assoc]
    omega

/-- An integer that a quotient does not exceed is not exceeded by the rounded quotient. -/
theorem roundHalfEven_le_of_le_mul (hden : 0 < den) (h : num ≤ bound * den) :
    roundHalfEven num den ≤ bound := by
  have hstep : (bound + 1) * den = bound * den + den := Nat.succ_mul bound den
  have hlt : roundHalfEven num den < bound + 1 := by
    refine roundHalfEven_lt ?_
    rw [Nat.sub_mul, Nat.mul_assoc]
    omega
  exact Nat.lt_succ_iff.mp hlt

/-- A whole number is rounded to itself. -/
theorem roundHalfEven_mul (n : Nat) (hden : 0 < den) : roundHalfEven (n * den) den = n := by
  simp only [roundHalfEven, Nat.mul_mod_left, Nat.mul_div_cancel n hden, Nat.mul_zero]
  rw [Nat.compare_eq_lt.mpr hden]

end RoundHalfEven

/-! ## The scale of a quotient -/

section Scale

variable {num den : Nat}

/-- The test for the leading digit, with all powers of two on one side. -/
theorem estimate_iff (num den a b : Nat) :
    den * 2 ^ ((a : Int) - b).toNat ≤ num * 2 ^ (-((a : Int) - b)).toNat ↔
      den * 2 ^ a ≤ num * 2 ^ b := by
  -- One of the two powers is always one.
  rcases Nat.le_total b a with hle | hle
  · have hup : ((a : Int) - b).toNat = a - b := by omega
    have hdown : (-((a : Int) - b)).toNat = 0 := by omega
    have hpow : (2 : Nat) ^ a = 2 ^ (a - b) * 2 ^ b := by rw [← Nat.pow_add]; congr 1; omega
    rw [hup, hdown, Nat.pow_zero, Nat.mul_one, hpow, ← Nat.mul_assoc]
    exact (Nat.mul_le_mul_right_iff (Nat.two_pow_pos b)).symm
  · have hup : ((a : Int) - b).toNat = 0 := by omega
    have hdown : (-((a : Int) - b)).toNat = b - a := by omega
    have hpow : (2 : Nat) ^ b = 2 ^ (b - a) * 2 ^ a := by rw [← Nat.pow_add]; congr 1; omega
    rw [hup, hdown, Nat.pow_zero, Nat.mul_one, hpow, ← Nat.mul_assoc]
    exact (Nat.mul_le_mul_right_iff (Nat.two_pow_pos a)).symm

theorem leadingExponent_eq (num den : Nat) : leadingExponent num den =
    if den * 2 ^ ((num.log2 : Int) - den.log2).toNat
        ≤ num * 2 ^ (-((num.log2 : Int) - den.log2)).toNat
    then (num.log2 : Int) - den.log2 else (num.log2 : Int) - den.log2 - 1 := rfl

/-- A positive quotient below `2 ^ 53` lies between `2 ^ 52` and `2 ^ 53` when it is scaled by its
leading digit. -/
theorem exists_leadingExponent (hnum : 0 < num) (hden : 0 < den) (hsmall : num < 2 ^ 53 * den) :
    ∃ k : Nat, leadingExponent num den = 52 - (k : Int)
      ∧ 2 ^ 52 * den ≤ num * 2 ^ k ∧ num * 2 ^ k < 2 ^ 53 * den := by
  have hnumLow := Nat.log2_self_le hnum.ne'
  have hnumHigh := Nat.lt_log2_self (n := num)
  have hdenLow := Nat.log2_self_le hden.ne'
  have hdenHigh := Nat.lt_log2_self (n := den)
  rw [leadingExponent_eq]
  simp only [estimate_iff]
  generalize num.log2 = a at hnumLow hnumHigh ⊢
  generalize den.log2 = b at hdenLow hdenHigh ⊢
  -- Scaled by `2 ^ a`, both bounds are about numbers whose binary digits are known.
  have hscale {x y : Nat} : x * 2 ^ a ≤ y * 2 ^ a ↔ x ≤ y :=
    Nat.mul_le_mul_right_iff (Nat.two_pow_pos a)
  -- The estimate from the digits of both numbers is right or one too large.
  split
  · rename_i hestimate
    -- The quotient would otherwise be `2 ^ 53` or more.
    have hab : a ≤ 52 + b := by
      by_contra hgt
      have hpow : (2 : Nat) ^ (53 + b) ≤ 2 ^ a := Nat.pow_le_pow_right (by decide) (by omega)
      have h1 := Nat.mul_le_mul_left den hpow
      have h2 : num * 2 ^ b < 2 ^ 53 * den * 2 ^ b :=
        Nat.mul_lt_mul_of_pos_right hsmall (Nat.two_pow_pos b)
      have h3 : den * 2 ^ (53 + b) = 2 ^ 53 * den * 2 ^ b := by rw [Nat.pow_add]; ring
      omega
    have hk : (2 : Nat) ^ (52 + b - a) * 2 ^ a = 2 ^ 52 * 2 ^ b := by
      rw [← Nat.pow_add, ← Nat.pow_add]
      congr 1
      omega
    refine ⟨52 + b - a, by omega, ?_, ?_⟩
    · rw [← hscale, Nat.mul_assoc num, hk]
      calc 2 ^ 52 * den * 2 ^ a = 2 ^ 52 * (den * 2 ^ a) := by ring
        _ ≤ 2 ^ 52 * (num * 2 ^ b) := Nat.mul_le_mul_left _ hestimate
        _ = num * (2 ^ 52 * 2 ^ b) := by ring
    · have hpow : (2 : Nat) ^ (a + 1) * 2 ^ (52 + b - a) = 2 ^ 53 * 2 ^ b := by
        rw [← Nat.pow_add, ← Nat.pow_add]
        congr 1
        omega
      calc num * 2 ^ (52 + b - a) < 2 ^ (a + 1) * 2 ^ (52 + b - a) :=
            Nat.mul_lt_mul_of_pos_right hnumHigh (Nat.two_pow_pos _)
        _ = 2 ^ 53 * 2 ^ b := hpow
        _ ≤ 2 ^ 53 * den := Nat.mul_le_mul_left _ hdenLow
  · rename_i hestimate
    -- As before, with the leading digit one place lower.
    have hab : a ≤ 53 + b := by
      by_contra hgt
      have hpow : (2 : Nat) ^ (54 + b) ≤ 2 ^ a := Nat.pow_le_pow_right (by decide) (by omega)
      have h1 : 2 ^ 53 * den < 2 ^ 53 * 2 ^ (b + 1) :=
        Nat.mul_lt_mul_of_pos_left hdenHigh (by decide)
      have h2 : (2 : Nat) ^ 53 * 2 ^ (b + 1) = 2 ^ (54 + b) := by
        rw [← Nat.pow_add]
        congr 1
        omega
      omega
    have hk : (2 : Nat) ^ (53 + b - a) * 2 ^ a = 2 ^ 53 * 2 ^ b := by
      rw [← Nat.pow_add, ← Nat.pow_add]
      congr 1
      omega
    refine ⟨53 + b - a, by omega, ?_, ?_⟩
    · calc 2 ^ 52 * den ≤ 2 ^ 52 * 2 ^ (b + 1) := Nat.mul_le_mul_left _ hdenHigh.le
        _ = 2 ^ a * 2 ^ (53 + b - a) := by rw [← Nat.pow_add, ← Nat.pow_add]; congr 1; omega
        _ ≤ num * 2 ^ (53 + b - a) := Nat.mul_le_mul_right _ hnumLow
    · refine Nat.lt_of_not_le fun hge => hestimate ?_
      have hmul := Nat.mul_le_mul_right (2 ^ a) hge
      rw [Nat.mul_assoc num, hk] at hmul
      have h1 : 2 ^ 53 * den * 2 ^ a = 2 ^ 53 * (den * 2 ^ a) := by ring
      have h2 : num * (2 ^ 53 * 2 ^ b) = 2 ^ 53 * (num * 2 ^ b) := by ring
      rw [h1, h2] at hmul
      exact Nat.le_of_mul_le_mul_left hmul (by decide)

end Scale

/-! ## Numbers by significand and scale -/

/-- A finite number whose magnitude is a significand divided by `2 ^ scale`. -/
def Represents (x : Binary64) (negative : Bool) (significand scale : Nat) : Prop :=
  ∃ num den : Nat, 0 < den ∧ num * 2 ^ scale = significand * den
    ∧ x.ratio? = some (if negative then -(num : Int) else num, den)

/-- Only a finite number has an integer part. -/
theorem isFinite_of_truncate? {x : Binary64} {n : Int} (h : x.truncate? = some n) :
    x.isFinite = true := by
  obtain ⟨ratio, hratio, -⟩ := Option.map_eq_some_iff.mp h
  rw [ratio?] at hratio
  rw [Binary64.isFinite]
  split at hratio
  · rfl
  · contradiction

/-- The quotient that a finite number is. -/
theorem ratio?_of_view {x : Binary64} {negative : Bool} {significand : Nat} {exponent : Int}
    (h : x.view = .finite negative significand exponent) : x.ratio? =
      some (if negative then -((significand * 2 ^ exponent.toNat : Nat) : Int)
        else (significand * 2 ^ exponent.toNat : Nat), 2 ^ (-exponent).toNat) := by
  rw [ratio?, h]
  rfl

/-- The bits that a quotient is rounded to. -/
theorem ofRatio_eq (negative : Bool) {num : Nat} (hnum : num ≠ 0) (den : Nat) :
    ofRatio negative num den = ofMagnitude negative
      (min ((max (leadingExponent num den - 52) (-1074) + 1074).toNat * 2 ^ 52
        + roundHalfEven (num * 2 ^ (-max (leadingExponent num den - 52) (-1074)).toNat)
          (den * 2 ^ (max (leadingExponent num den - 52) (-1074)).toNat)) infinityMagnitude) := by
  rw [ofRatio, if_neg hnum]
  rfl

/-- The view of a number whose magnitude bits are those of a normal number. -/
theorem view_ofMagnitude (negative : Bool) {biased fraction : Nat} (hlow : 0 < biased)
    (hhigh : biased < 0x7FF) (hfraction : fraction < 2 ^ 52) :
    (ofMagnitude negative (biased * 2 ^ 52 + fraction)).view
      = .finite negative (2 ^ 52 + fraction) ((biased : Int) - 1075) := by
  -- Sign, exponent and fraction lie in different bits, so each is read back by itself.
  have hbits : (ofMagnitude negative (biased * 2 ^ 52 + fraction)).bits.toNat
      = (if negative then 2 ^ 63 else 0) + (biased * 2 ^ 52 + fraction) := by
    rw [ofMagnitude, UInt64.toNat_ofNat']
    split <;> omega
  have hsign : ((ofMagnitude negative (biased * 2 ^ 52 + fraction)).bits.toNat
      / 0x8000000000000000 == 1) = negative := by
    rw [hbits]
    cases negative with
    | true =>
      rw [if_pos rfl, beq_iff_eq]
      omega
    | false =>
      rw [if_neg Bool.false_ne_true, beq_eq_false_iff_ne]
      omega
  have hbiased : (ofMagnitude negative (biased * 2 ^ 52 + fraction)).bits.toNat
      / 0x10000000000000 % 0x800 = biased := by
    rw [hbits]
    split <;> omega
  have hrest : (ofMagnitude negative (biased * 2 ^ 52 + fraction)).bits.toNat
      % 0x10000000000000 = fraction := by
    rw [hbits]
    split <;> omega
  rw [view]
  simp only [hsign, hbiased, hrest]
  rw [if_neg (by omega), if_neg (by omega)]
  rfl

/-- Magnitude bits made from a significand and a scale stand for these, also when the significand
is the power of two that carries into the exponent. -/
theorem represents_ofMagnitude (negative : Bool) {significand scale : Nat}
    (hlow : 2 ^ 52 ≤ significand) (hhigh : significand ≤ 2 ^ 53) (hscale : scale ≤ 1074) :
    (ofMagnitude negative ((1074 - scale) * 2 ^ 52 + significand)).Represents negative significand
      scale := by
  rcases Nat.lt_or_eq_of_le hhigh with hlt | rfl
  -- The leading digit is the one that is not stored.
  · have hbits : (1074 - scale) * 2 ^ 52 + significand
        = (1075 - scale) * 2 ^ 52 + (significand - 2 ^ 52) := by omega
    have hexponent : (((1075 - scale : Nat) : Int) - 1075) = -(scale : Int) := by omega
    refine ⟨significand, 2 ^ scale, Nat.two_pow_pos scale, rfl, ?_⟩
    rw [hbits, ratio?_of_view (view_ofMagnitude negative (by omega) (by omega) (by omega))]
    simp only [hexponent, Int.neg_neg, Int.toNat_natCast, Nat.add_sub_cancel' hlow,
      Int.toNat_neg_natCast, Nat.pow_zero, Nat.mul_one]
  -- The carry leaves the fraction zero and the exponent one higher.
  · have hbits : (1074 - scale) * 2 ^ 52 + 2 ^ 53 = (1076 - scale) * 2 ^ 52 + 0 := by omega
    have hexponent : (((1076 - scale : Nat) : Int) - 1075) = 1 - (scale : Int) := by omega
    refine ⟨2 ^ 52 * 2 ^ (1 - (scale : Int)).toNat, 2 ^ (-(1 - (scale : Int))).toNat,
      Nat.two_pow_pos _, ?_, ?_⟩
    · rw [Nat.mul_assoc, ← Nat.pow_add, ← Nat.pow_add, ← Nat.pow_add]
      congr 1
      omega
    · rw [hbits, ratio?_of_view (view_ofMagnitude negative (by omega) (by omega) (by omega))]
      simp only [hexponent, Nat.add_zero]

/-- The number that a quotient is rounded to: the quotient is scaled to lie between `2 ^ 52` and
`2 ^ 53` and rounded to an integer there. -/
theorem exists_represents_ofRatio (negative : Bool) {num den : Nat} (hnum : 0 < num)
    (hden : 0 < den) (hsmall : num < 2 ^ 53 * den) (hlarge : den ≤ num * 2 ^ 20) :
    ∃ scale, 2 ^ 52 * den ≤ num * 2 ^ scale ∧ num * 2 ^ scale < 2 ^ 53 * den
      ∧ (ofRatio negative num den).Represents negative (roundHalfEven (num * 2 ^ scale) den)
        scale := by
  obtain ⟨scale, hleading, hlow, hhigh⟩ := exists_leadingExponent hnum hden hsmall
  -- The quotient is at least `2 ^ -20`, so it is nowhere near the subnormal numbers.
  have hscale : scale < 73 := by
    by_contra hge
    have hpow : (2 : Nat) ^ 73 ≤ 2 ^ scale := Nat.pow_le_pow_right (by decide) (by omega)
    have hmul := Nat.mul_le_mul_left num hpow
    omega
  -- Rounding does not leave the range, but for the carry to `2 ^ 53`.
  have hbelow : 2 ^ 52 ≤ roundHalfEven (num * 2 ^ scale) den :=
    le_roundHalfEven_of_mul_le hden hlow
  have habove : roundHalfEven (num * 2 ^ scale) den ≤ 2 ^ 53 :=
    roundHalfEven_le_of_le_mul hden hhigh.le
  refine ⟨scale, hlow, hhigh, ?_⟩
  have hexponent : max (leadingExponent num den - 52) (-1074) = -(scale : Int) := by
    rw [hleading]
    omega
  have hmagnitude : ((-(scale : Int)) + 1074).toNat * 2 ^ 52 = (1074 - scale) * 2 ^ 52 := by omega
  rw [ofRatio_eq negative hnum.ne' den]
  simp only [hexponent, Int.neg_neg, Int.toNat_natCast, Int.toNat_neg_natCast, Nat.pow_zero,
    Nat.mul_one, hmagnitude]
  rw [Nat.min_eq_left (by rw [infinityMagnitude]; omega)]
  exact represents_ofMagnitude negative hbelow habove (by omega)

/-- Zero is rounded to zero. -/
theorem represents_ofRatio_zero (negative : Bool) (den : Nat) :
    (ofRatio negative 0 den).Represents negative 0 0 := by
  refine ⟨0, 2 ^ (-(-1074 : Int)).toNat, Nat.two_pow_pos _, by rw [Nat.zero_mul, Nat.zero_mul], ?_⟩
  have hview : (ofRatio negative 0 den).view = .finite negative 0 (-1074) := by
    rw [ofRatio, if_pos rfl]
    cases negative with
    | true => simp [ofMagnitude, view]
    | false => simp [ofMagnitude, view]
  rw [ratio?_of_view hview]
  simp only [Nat.zero_mul]

/-- The integer part of a number is that of its magnitude, with its sign. -/
theorem Represents.truncate?_eq {x : Binary64} {negative : Bool} {significand scale : Nat}
    (h : x.Represents negative significand scale) : x.truncate? =
      some (if negative then -((significand / 2 ^ scale : Nat) : Int)
        else (significand / 2 ^ scale : Nat)) := by
  obtain ⟨num, den, hden, hvalue, hratio⟩ := h
  have hquotient : num / den = significand / 2 ^ scale := by
    calc num / den = num * 2 ^ scale / (den * 2 ^ scale) :=
          (Nat.mul_div_mul_right num den (Nat.two_pow_pos scale)).symm
      _ = den * significand / (den * 2 ^ scale) := by rw [hvalue, Nat.mul_comm significand]
      _ = significand / 2 ^ scale := Nat.mul_div_mul_left _ _ hden
  rw [truncate?, hratio, ← hquotient]
  cases negative with
  | true => simp only [↓reduceIte, Option.map_some, Int.neg_tdiv, Int.ofNat_tdiv]
  | false => simp only [Bool.false_eq_true, ↓reduceIte, Option.map_some, Int.ofNat_tdiv]

/-- A whole number of less than fifty-four binary digits is kept. -/
theorem exists_represents_ofQuotient_mul {n : Int} {den : Nat} (hden : 0 < den)
    (hn : n.natAbs < 2 ^ 53) (hlarge : den ≤ 2 ^ 20) :
    ∃ scale,
      (ofQuotient (n * den) den).Represents (decide (n < 0)) (n.natAbs * 2 ^ scale) scale := by
  have hsign : n * den < 0 ↔ n < 0 := by
    have hcompare := Int.mul_lt_mul_right (b := n) (c := 0) (Int.natCast_pos.mpr hden)
    rwa [Int.zero_mul] at hcompare
  have hmagnitude : (n * den).natAbs = n.natAbs * den := by
    rw [Int.natAbs_mul, Int.natAbs_natCast]
  simp only [ofQuotient, hmagnitude, hsign]
  -- The scaled quotient is a whole number already, so rounding keeps it.
  rcases Nat.eq_zero_or_pos n.natAbs with hzero | hpos
  · refine ⟨0, ?_⟩
    rw [hzero, Nat.zero_mul, Nat.zero_mul]
    exact represents_ofRatio_zero _ den
  · obtain ⟨scale, -, -, hrepresents⟩ :=
      exists_represents_ofRatio (decide (n < 0)) (Nat.mul_pos hpos hden) hden
        (Nat.mul_lt_mul_of_pos_right hn hden)
        (hlarge.trans (Nat.le_mul_of_pos_left _ (Nat.mul_pos hpos hden)))
    refine ⟨scale, ?_⟩
    rwa [Nat.mul_right_comm, roundHalfEven_mul _ hden] at hrepresents

/-- A whole number below `2 ^ 53` is represented exactly. -/
theorem truncate?_ofQuotient_mul {n : Int} {den : Nat} (hden : 0 < den) (hn : n.natAbs < 2 ^ 53)
    (hlarge : den ≤ 2 ^ 20) : (ofQuotient (n * den) den).truncate? = some n := by
  obtain ⟨scale, hrepresents⟩ := exists_represents_ofQuotient_mul hden hn hlarge
  rw [hrepresents.truncate?_eq, Nat.mul_div_cancel _ (Nat.two_pow_pos _)]
  simp only [decide_eq_true_eq]
  split <;> congr 1 <;> omega

/-- An integer below `2 ^ 53` is represented. -/
theorem isFinite_ofInt {n : Int} (hn : n.natAbs < 2 ^ 53) : (ofInt n).isFinite = true := by
  have htruncate := truncate?_ofQuotient_mul Nat.one_pos hn (by decide)
  rw [Int.natCast_one, Int.mul_one] at htruncate
  exact isFinite_of_truncate? htruncate

/-- The exact value of such a number is the whole number. -/
theorem eq_of_ratio?_ofQuotient_mul {n : Int} {den : Nat} (hden : 0 < den) (hn : n.natAbs < 2 ^ 53)
    (hlarge : den ≤ 2 ^ 20) {num : Int} {den' : Nat}
    (h : (ofQuotient (n * den) den).ratio? = some (num, den')) : num = n * den' := by
  obtain ⟨scale, magnitude, denominator, -, hvalue, hratio⟩ :=
    exists_represents_ofQuotient_mul hden hn hlarge
  rw [hratio] at h
  obtain ⟨rfl, rfl⟩ := Prod.mk.inj (Option.some.inj h)
  have hmagnitude : magnitude = n.natAbs * denominator := by
    refine Nat.eq_of_mul_eq_mul_right (Nat.two_pow_pos scale) ?_
    rw [hvalue, Nat.mul_right_comm]
  rw [hmagnitude, Int.natCast_mul]
  simp only [decide_eq_true_eq]
  split
  · rw [← Int.neg_mul]
    congr 1
    omega
  · congr 1
    omega

/-! ## Signs -/

/-- The quotient of a number has a denominator. -/
theorem den_pos_of_ratio? {x : Binary64} {num : Int} {den : Nat}
    (h : x.ratio? = some (num, den)) : 0 < den := by
  rw [ratio?] at h
  split at h
  · obtain ⟨-, rfl⟩ := Prod.mk.inj (Option.some.inj h)
    exact Nat.two_pow_pos _
  · contradiction

/-- Without a sign bit a number is not negative. -/
theorem nonneg_of_ratio?_ofMagnitude {magnitude : Nat} (hmagnitude : magnitude < 2 ^ 63) {num : Int}
    {den : Nat} (h : (ofMagnitude false magnitude).ratio? = some (num, den)) : 0 ≤ num := by
  have hbits : (ofMagnitude false magnitude).bits.toNat = magnitude := by
    rw [ofMagnitude, UInt64.toNat_ofNat', if_neg Bool.false_ne_true]
    omega
  -- The sign is the bit above the magnitude.
  have hzero : (magnitude / 0x8000000000000000 == 1) = false := by
    rw [beq_eq_false_iff_ne]
    omega
  have hsign {negative : Bool} {significand : Nat} {exponent : Int}
      (hview : (ofMagnitude false magnitude).view = .finite negative significand exponent) :
      negative = false := by
    rw [view] at hview
    simp only [hbits, hzero] at hview
    split at hview
    · split at hview
      · contradiction
      · contradiction
    split at hview
    · exact (View.finite.inj hview).1.symm
    · exact (View.finite.inj hview).1.symm
  rw [ratio?] at h
  split at h
  · rename_i hview
    obtain rfl := hsign hview
    obtain ⟨rfl, -⟩ := Prod.mk.inj (Option.some.inj h)
    exact Int.natCast_nonneg _
  · contradiction

/-- A quotient that is not negative is not rounded below zero. -/
theorem nonneg_of_ratio?_ofQuotient {m : Int} (hm : 0 ≤ m) {d : Nat} {num : Int} {den : Nat}
    (h : (ofQuotient m d).ratio? = some (num, den)) : 0 ≤ num := by
  rw [ofQuotient, decide_eq_false (Int.not_lt.mpr hm), ofRatio.eq_def] at h
  have hinfinity : infinityMagnitude < 2 ^ 63 := by decide
  split at h
  · exact nonneg_of_ratio?_ofMagnitude (by decide) h
  · exact nonneg_of_ratio?_ofMagnitude (Nat.lt_of_le_of_lt (Nat.min_le_right _ _) hinfinity) h

end FleetToken.Binary64
