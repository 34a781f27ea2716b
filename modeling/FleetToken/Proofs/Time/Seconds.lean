import FleetToken.Proofs.Binary64.Order
import FleetToken.Proofs.Time.Reader
import FleetToken.Token.Verification

/-!
# Seconds on the wire and on the clock

A date of a whole number of seconds is written as this number and read as the same date. A clock
shows microseconds, but it is compared as a binary64 number of seconds. For the times that claims
may state this is exact, except that beyond `2 ^ 34` seconds, where binary64 is coarser than two
microseconds, a time counts as reached one microsecond early.

## Main definitions

* `carriedMicros`: how many microseconds before a time binary64 is carried to it.
* `reachMicros`: the first microsecond at which a time counts as reached.

## Main results

* `roundHalfEven_lt_iff`: when microseconds are rounded to less than a number of seconds.
* `Timestamp.ofJson_int_eq`: which date a number is read as.
* `Timestamp.wireSeconds?_ofSeconds`, `Timestamp.ofJson_int`: whole seconds are written and read.
* `Clock.isBefore_iff`: when a clock is before a time.
* `Clock.isBefore_eq_false_of_micros`: a clock that shows a time is not before it.
* `Clock.lt_of_isBefore`: a clock that is before a time shows less.
* `Clock.isBefore_of_le`: a clock is before all that a later clock is before.
-/

namespace FleetToken

namespace Timestamp

/-! ## Dates of numbers -/

/-- Up to `2 ^ 39` units from 1970 all dates are represented: as seconds they lie between 1336 and
2604, and as milliseconds between 1952 and 1987. -/
theorem inRange_mul_unitMicros {n : Int} (hn : n.natAbs ≤ 2 ^ 39) :
    inRange (n * unitMicros n 1) = true := by
  have hmin : minWall < -(watershed * microsPerSecond) := by decide
  have hend : watershed * microsPerSecond < endWall := by decide
  rw [inRange_iff, unitMicros]
  rw [watershed, microsPerSecond] at *
  split <;> omega

/-- Up to the watershed the units of numbers are seconds. -/
theorem unitMicros_of_natAbs_le {n : Int} (hn : n.natAbs ≤ watershed.natAbs) :
    n.natAbs ≤ 2 ^ 39 ∧ unitMicros n 1 = microsPerSecond := by
  rw [watershed] at hn
  refine ⟨by omega, if_pos ?_⟩
  rw [watershed]
  omega

/-- Up to the watershed the dates of all seconds are represented. -/
theorem inRange_of_natAbs_le {n : Int} (hn : n.natAbs ≤ watershed.natAbs) :
    inRange (n * microsPerSecond) = true := by
  obtain ⟨hsmall, hunit⟩ := unitMicros_of_natAbs_le hn
  exact hunit ▸ inRange_mul_unitMicros hsmall

theorem natAbs_le_watershed {n : Int} (hlow : 0 ≤ n) (hhigh : n ≤ watershed) :
    n.natAbs ≤ watershed.natAbs := by
  omega

/-- A whole number up to the watershed stays itself as a quotient. -/
theorem truncate?_ofQuotient_of_le {n : Int} {den : Nat} (hden : 0 < den) (hlarge : den ≤ 2 ^ 20)
    (hn : n.natAbs ≤ watershed.natAbs) :
    (Binary64.ofQuotient (n * den) den).truncate? = some n := by
  refine Binary64.truncate?_ofQuotient_mul hden ?_ hlarge
  rw [watershed] at hn
  omega

/-- A date of whole seconds is written as their number. -/
theorem wireSeconds?_ofSeconds {n : Int} {h : inRange (n * microsPerSecond) = true}
    (hn : n.natAbs ≤ watershed.natAbs) {zone : LocalZone} :
    (ofSeconds n h).wireSeconds? zone = some n := by
  have htruncate : (Binary64.ofQuotient (n * (1000000 : Nat)) 1000000).truncate? = some n :=
    truncate?_ofQuotient_of_le (by decide) (by decide) hn
  -- A date of seconds has no microseconds beyond them.
  rw [wireSeconds?, utcMicros?_of_instant? (instant?_of_clock_eq rfl)]
  exact congrArg some (congrArg (Option.getD · 0) htruncate)

/-- A number of up to `2 ^ 39` units is read as a date, in seconds or in milliseconds. -/
theorem ofJson_int_eq {n : Int} (hn : n.natAbs ≤ 2 ^ 39) :
    ofJson (.int n) = .ok (utc (n * unitMicros n 1) (inRange_mul_unitMicros hn)) := by
  -- The reader first checks that the number has a binary64 value.
  have hfinite : (Binary64.ofInt n).isFinite = true := Binary64.isFinite_ofInt (by omega)
  have hend := (inRange_iff.mp (inRange_mul_unitMicros hn)).2
  have hstart : yearZeroWall ≤ n * unitMicros n 1 := by
    have hzero : yearZeroWall < minWall := by decide
    exact hzero.le.trans (inRange_iff.mp (inRange_mul_unitMicros hn)).1
  have hunit : ofNumber? n = utc? (n * unitMicros n 1) := by
    rw [ofNumber?, unitMicros, Nat.mul_one, mul_ite]
  rw [ofJson, if_pos hfinite, orIssue_eq_ok_iff, hunit, utc?, if_pos ⟨hstart, hend⟩]
  rfl

/-- A number of seconds is read as its date. -/
theorem ofJson_int {n : Int} {h : inRange (n * microsPerSecond) = true}
    (hn : n.natAbs ≤ watershed.natAbs) : ofJson (.int n) = .ok (ofSeconds n h) := by
  obtain ⟨hsmall, hunit⟩ := unitMicros_of_natAbs_le hn
  rw [ofJson_int_eq hsmall, Checked.ok.injEq]
  exact Timestamp.ext (congrArg (n * ·) hunit) rfl

end Timestamp

/-- The first microsecond at which a time, in seconds, counts as reached. -/
def reachMicros (n : Int) : Int :=
  n * microsPerSecond - if 2 ^ 34 < n then 1 else 0

/-! ## Microseconds that are carried -/

/-- How many microseconds before a number of seconds binary64 is carried to it: less than half a
unit of the last digit just below it. -/
def carriedMicros (n : Nat) : Nat :=
  1000000 * 2 ^ (n - 1).log2 / 2 ^ 53

/-- The binade just below a number of seconds. -/
theorem log2_pred_le {n digits : Nat} (hn : n ≤ 2 ^ (digits + 1)) : (n - 1).log2 ≤ digits := by
  rcases Nat.eq_zero_or_pos (n - 1) with hzero | hpos
  · rw [hzero]
    exact Nat.zero_le digits
  · exact Nat.lt_succ_iff.mp ((Nat.log2_lt hpos.ne').mpr (by omega))

/-- Below `2 ^ 39` seconds few microseconds are carried. -/
theorem carriedMicros_le {n : Nat} (hn : n ≤ 2 ^ 39) : carriedMicros n ≤ 30 := by
  have hlog : (n - 1).log2 ≤ 38 := log2_pred_le hn
  have hpow : 2 ^ (n - 1).log2 ≤ 2 ^ 38 := Nat.pow_le_pow_right (by decide) hlog
  rw [carriedMicros]
  omega

/-- Up to `2 ^ 34` seconds nothing is carried, and then up to `2 ^ 35` one microsecond. -/
theorem carriedMicros_eq {n : Nat} (hn : n ≤ 2 ^ 35) :
    carriedMicros n = if 2 ^ 34 < n then 1 else 0 := by
  rw [carriedMicros]
  split
  · have hlog : (n - 1).log2 = 34 := (Nat.log2_eq_iff (by omega)).mpr (by omega)
    rw [hlog]
    rfl
  · have hlog : (n - 1).log2 ≤ 33 := log2_pred_le (by omega)
    have hpow : 2 ^ (n - 1).log2 ≤ 2 ^ 33 := Nat.pow_le_pow_right (by decide) hlog
    omega

section Carried

variable {micros n scale d : Nat} (hd : micros + d = n * 1000000)
include hd

/-- Microseconds less than a second before a later time lie in its binade. -/
theorem two_pow_log2_mul_le (hlater : n - 1 ≠ 0) (hnear : d ≤ 1000000) :
    2 ^ (n - 1).log2 * 1000000 ≤ micros := by
  have hdigits := Nat.log2_self_le hlater
  omega

variable (hpos : 0 < d)
include hpos

/-- A time of `n` seconds lies in the next binade at most. -/
theorem le_two_pow_log2_mul (hlow : 2 ^ 52 * 1000000 ≤ micros * 2 ^ scale) :
    2 ^ 52 ≤ 2 ^ (n - 1).log2 * 2 ^ scale := by
  have hdigits := Nat.lt_log2_self (n := n - 1)
  have hmicros : micros < 2 ^ ((n - 1).log2 + 1) * 1000000 := by omega
  have hmul := Nat.mul_lt_mul_of_pos_right hmicros (Nat.two_pow_pos scale)
  have hpow : 2 ^ ((n - 1).log2 + 1) * 1000000 * 2 ^ scale
      = 2 ^ ((n - 1).log2 + scale + 1) * 1000000 := by ring
  have hlt : 2 ^ 52 < 2 ^ ((n - 1).log2 + scale + 1) := by omega
  rw [← Nat.pow_add]
  exact Nat.pow_le_pow_right (by decide)
    (Nat.lt_succ_iff.mp ((Nat.pow_lt_pow_iff_right (by decide)).mp hlt))

/-- Microseconds that are not carried are more than half a unit. -/
theorem half_lt_of_carriedMicros_lt (hlow : 2 ^ 52 * 1000000 ≤ micros * 2 ^ scale)
    (hfar : carriedMicros n < d) : 1000000 < 2 * (d * 2 ^ scale) := by
  have hscale := le_two_pow_log2_mul hd hpos hlow
  have hless : 1000000 * 2 ^ (n - 1).log2 < d * 2 ^ 53 := by
    rw [carriedMicros] at hfar
    exact (Nat.div_lt_iff_lt_mul (by decide)).mp hfar
  have hmul := Nat.mul_lt_mul_of_pos_right hless (Nat.two_pow_pos scale)
  have hswap : d * 2 ^ 53 * 2 ^ scale = d * 2 ^ scale * 2 ^ 53 := Nat.mul_right_comm _ _ _
  rw [hswap, Nat.mul_assoc 1000000] at hmul
  omega

/-- Microseconds that are carried are less than half a unit. -/
theorem lt_half_of_le_carriedMicros (hn : n ≤ 2 ^ 39)
    (hlow : 2 ^ 52 * 1000000 ≤ micros * 2 ^ scale) (hhigh : micros * 2 ^ scale < 2 ^ 53 * 1000000)
    (hnear : d ≤ carriedMicros n) : 2 * (d * 2 ^ scale) < 1000000 := by
  have hcarried := carriedMicros_le hn
  have hlater : n - 1 ≠ 0 := by
    intro hzero
    rw [carriedMicros, hzero, Nat.log2_zero] at hnear
    omega
  have hscale : 2 ^ (n - 1).log2 * 2 ^ scale ≤ 2 ^ 52 := by
    have hmul := Nat.mul_le_mul_right (2 ^ scale)
      (two_pow_log2_mul_le hd hlater (hnear.trans (hcarried.trans (by decide))))
    rw [Nat.mul_right_comm] at hmul
    have hlt : 2 ^ (n - 1).log2 * 2 ^ scale < 2 ^ 53 := by omega
    rw [← Nat.pow_add] at hlt ⊢
    exact Nat.pow_le_pow_right (by decide)
      (Nat.lt_succ_iff.mp ((Nat.pow_lt_pow_iff_right (by decide)).mp hlt))
  have hless : d * 2 ^ 53 ≤ 1000000 * 2 ^ (n - 1).log2 := by
    rw [carriedMicros] at hnear
    exact (Nat.le_div_iff_mul_le (by decide)).mp hnear
  have hmul := Nat.mul_le_mul_right (2 ^ scale) hless
  have hswap : d * 2 ^ 53 * 2 ^ scale = d * 2 ^ scale * 2 ^ 53 := Nat.mul_right_comm _ _ _
  rw [hswap, Nat.mul_assoc 1000000] at hmul
  -- Half a unit is not met exactly, as it is no multiple of a large power of two.
  have hlarge : 2 ^ 7 ∣ 2 ^ scale := by
    refine Nat.pow_dvd_pow 2 ?_
    by_contra hsmall
    have hpow : 2 ^ scale ≤ 2 ^ 6 := Nat.pow_le_pow_right (by decide) (by omega)
    have hmicros := Nat.mul_le_mul_left micros hpow
    omega
  obtain ⟨k, hk⟩ := Dvd.dvd.mul_left hlarge d
  omega

end Carried

/-- A number of microseconds is rounded to a number of seconds on the same side of a time, but for
the last microseconds before it, which are carried to it. -/
theorem roundHalfEven_lt_iff {micros n scale : Nat}
    (hlow : 2 ^ 52 * 1000000 ≤ micros * 2 ^ scale) (hhigh : micros * 2 ^ scale < 2 ^ 53 * 1000000)
    (hn : n ≤ 2 ^ 39) :
    Binary64.roundHalfEven (micros * 2 ^ scale) 1000000 < n * 2 ^ scale ↔
      micros + carriedMicros n < n * 1000000 := by
  have hswap : n * 1000000 * 2 ^ scale = n * 2 ^ scale * 1000000 := Nat.mul_right_comm _ _ _
  rcases Nat.lt_or_ge micros (n * 1000000) with hbefore | hafter
  · obtain ⟨d, hd⟩ := Nat.exists_eq_add_of_lt hbefore
    replace hd : micros + (d + 1) = n * 1000000 := hd.symm
    have hmul : n * 1000000 * 2 ^ scale = micros * 2 ^ scale + (d + 1) * 2 ^ scale := by
      rw [← hd, Nat.add_mul]
    -- Both directions compare with the half-integer next to the time.
    constructor
    · intro h
      by_contra hnear
      have hhalf := lt_half_of_le_carriedMicros hd (Nat.succ_pos d) hn hlow hhigh (by omega)
      refine Nat.not_le.mpr h (Binary64.le_roundHalfEven (by decide) ?_)
      omega
    · intro h
      have hhalf := half_lt_of_carriedMicros_lt hd (Nat.succ_pos d) hlow (by omega)
      refine Binary64.roundHalfEven_lt ?_
      omega
  -- At or after the time there is nothing to be lost.
  · have hmul := Nat.mul_le_mul_right (2 ^ scale) hafter
    rw [Nat.mul_right_comm] at hmul
    have hrounded : n * 2 ^ scale ≤ Binary64.roundHalfEven (micros * 2 ^ scale) 1000000 :=
      Binary64.le_roundHalfEven_of_mul_le (by decide) hmul
    omega

/-! ## The clock -/

namespace Clock

/-- What a clock shows is far from where whole seconds are lost. -/
theorem natAbs_micros_lt (clock : Clock) : clock.micros.natAbs < 2 ^ 53 * 1000000 := by
  have hmicros := Timestamp.inRange_iff.mp clock.micros_inRange
  have hmin : -(2 ^ 53 * 1000000) < Timestamp.minWall := by decide
  have hend : Timestamp.endWall < 2 ^ 53 * 1000000 := by decide
  omega

/-- A clock is compared as the quotient that its binary64 number is. -/
theorem isBefore_eq_of_ratio? {clock : Clock} {num : Int} {den : Nat}
    (h : (Binary64.ofRatio (clock.micros < 0) clock.micros.natAbs 1000000).ratio?
      = some (num, den)) (n : Int) : clock.isBefore n = decide (num < n * den) := by
  have hseconds : clock.seconds.ratio? = some (num, den) := h
  rw [isBefore, hseconds]

/-- A clock before 1970 is before all times after it. -/
theorem isBefore_of_neg {clock : Clock} {micros : Nat} (hmicros : clock.micros = -(micros : Int))
    (hpos : 0 < micros) (n : Nat) : clock.isBefore n = true := by
  have hneg : -(micros : Int) < 0 := by omega
  have hhigh : micros < 2 ^ 53 * 1000000 := by
    have hbound := clock.natAbs_micros_lt
    omega
  obtain ⟨scale, hlow, -, num, den, hden, hvalue, hratio⟩ :=
    Binary64.exists_represents_ofRatio true hpos (by decide : 0 < 1000000) hhigh (by omega)
  -- The rounded number is below zero, as the significand has its leading digit.
  have hnum : 0 < num := by
    refine Nat.pos_of_ne_zero fun hzero => ?_
    have hsignificand : 2 ^ 52 ≤ Binary64.roundHalfEven (micros * 2 ^ scale) 1000000 :=
      Binary64.le_roundHalfEven_of_mul_le (by decide) hlow
    have hproduct := Nat.mul_pos (Nat.lt_of_lt_of_le (Nat.two_pow_pos 52) hsignificand) hden
    rw [← hvalue, hzero, Nat.zero_mul] at hproduct
    exact absurd hproduct (Nat.lt_irrefl 0)
  have hfound : (Binary64.ofRatio (clock.micros < 0) clock.micros.natAbs 1000000).ratio?
      = some (-(num : Int), den) := by
    rw [hmicros, decide_eq_true hneg, Int.natAbs_neg, Int.natAbs_natCast, hratio]
    rfl
  rw [isBefore_eq_of_ratio? hfound, decide_eq_true_eq]
  have hproduct := Int.mul_nonneg (Int.natCast_nonneg n) (Int.natCast_nonneg den)
  omega

/-- The start of 1970 is before all later times. -/
theorem isBefore_iff_of_zero {clock : Clock} (hmicros : clock.micros = 0) (n : Nat) :
    clock.isBefore n = true ↔ 0 < n := by
  -- Zero has no leading digit, so that its quotient is looked at apart.
  obtain ⟨num, den, hden, hvalue, hratio⟩ := Binary64.represents_ofRatio_zero false 1000000
  have hnum : num = 0 := by
    rw [Nat.zero_mul] at hvalue
    exact (Nat.mul_eq_zero.mp hvalue).resolve_right (Nat.two_pow_pos 0).ne'
  have hfound : (Binary64.ofRatio (clock.micros < 0) clock.micros.natAbs 1000000).ratio?
      = some (0, den) := by
    rw [hmicros, decide_eq_false (Int.lt_irrefl 0), Int.natAbs_zero, hratio, hnum]
    rfl
  rw [isBefore_eq_of_ratio? hfound, decide_eq_true_eq, ← Int.natCast_mul]
  constructor
  · intro h
    refine Nat.pos_of_ne_zero ?_
    rintro rfl
    rw [Nat.zero_mul] at h
    exact absurd h (Int.lt_irrefl 0)
  · intro h
    have hproduct := Nat.mul_pos h hden
    omega

/-- After 1970 the microseconds decide, but for the one that is lost beyond `2 ^ 34` seconds. -/
theorem isBefore_iff_of_pos {clock : Clock} {micros n : Nat} (hmicros : clock.micros = micros)
    (hpos : 0 < micros) (hn : n ≤ 20000000000) : clock.isBefore n = true ↔
      micros + (if 2 ^ 34 < n then 1 else 0) < n * 1000000 := by
  have hhigh : micros < 2 ^ 53 * 1000000 := by
    have hbound := clock.natAbs_micros_lt
    omega
  have hsign : ¬(micros : Int) < 0 := by omega
  obtain ⟨scale, hlow, hscaled, num, den, hden, hvalue, hratio⟩ :=
    Binary64.exists_represents_ofRatio false hpos (by decide : 0 < 1000000) hhigh (by omega)
  have hfound : (Binary64.ofRatio (clock.micros < 0) clock.micros.natAbs 1000000).ratio?
      = some ((num : Int), den) := by
    rw [hmicros, decide_eq_false hsign, Int.natAbs_natCast, hratio]
    rfl
  rw [isBefore_eq_of_ratio? hfound, decide_eq_true_eq, ← Int.natCast_mul, Int.ofNat_lt,
    ← carriedMicros_eq (by omega), ← roundHalfEven_lt_iff hlow hscaled (by omega)]
  -- Both sides are compared over the common denominator.
  have hscale := Nat.two_pow_pos scale
  rw [← Nat.mul_lt_mul_right hscale, hvalue, Nat.mul_right_comm, Nat.mul_lt_mul_right hden]

/-- A clock is before a time exactly until the time counts as reached. -/
theorem isBefore_iff {clock : Clock} {n : Int} (hlow : 0 ≤ n) (hhigh : n ≤ Timestamp.watershed) :
    clock.isBefore n = true ↔ clock.micros < reachMicros n := by
  obtain ⟨n, rfl⟩ := Int.eq_ofNat_of_zero_le hlow
  have hn : n ≤ 20000000000 := by
    rw [Timestamp.watershed] at hhigh
    omega
  have hreach : reachMicros n = ((n * 1000000 : Nat) : Int) - if 2 ^ 34 < n then 1 else 0 := by
    simp only [reachMicros, microsPerSecond]
    split <;> split <;> omega
  rw [hreach]
  -- The sign of the microseconds decides how they are rounded.
  rcases Int.lt_trichotomy clock.micros 0 with hneg | hzero | hpos
  · obtain ⟨micros, hmicros⟩ := Int.exists_eq_neg_ofNat hneg.le
    simp only [isBefore_of_neg hmicros (by omega), true_iff]
    split <;> omega
  · rw [isBefore_iff_of_zero hzero]
    split <;> omega
  · obtain ⟨micros, hmicros⟩ := Int.eq_ofNat_of_zero_le hpos.le
    rw [isBefore_iff_of_pos hmicros (by omega) hn]
    split <;> omega

/-! ### Other times -/

/-- A clock that shows a number of seconds, or more, is not before it. -/
theorem isBefore_eq_false_of_micros {clock : Clock} {n : Int} (hn : n.natAbs < 2 ^ 53)
    (hle : n * microsPerSecond ≤ clock.micros) : clock.isBefore n = false := by
  have hmicros : (n * microsPerSecond).natAbs < 2 ^ 53 * 1000000 := by
    rw [microsPerSecond]
    omega
  -- The number of seconds is exact, and the seconds of the clock are rounded to no less.
  obtain ⟨num, den, num', den', hratio, hratio', hmost⟩ := Binary64.ofQuotient_mono
    (by decide) (by decide) hmicros clock.natAbs_micros_lt hle
  obtain rfl := Binary64.eq_of_ratio?_ofQuotient_mul (by decide) hn (by decide) hratio
  have hden := Int.natCast_pos.mpr (Binary64.den_pos_of_ratio? hratio)
  have hseconds : clock.seconds.ratio? = some (num', den') := hratio'
  rw [isBefore, hseconds, decide_eq_false_iff_not, Int.not_lt]
  refine Int.le_of_mul_le_mul_right ?_ hden
  rw [Int.mul_right_comm]
  exact hmost

/-- What is before a time is before all later ones. -/
theorem isBefore_of_isBefore_of_le {clock : Clock} {m n : Int} (h : clock.isBefore m = true)
    (hle : m ≤ n) : clock.isBefore n = true := by
  rw [isBefore] at h ⊢
  split at h
  · rename_i num den _
    simp only [decide_eq_true_eq] at h ⊢
    exact Int.lt_of_lt_of_le h (Int.mul_le_mul_of_nonneg_right hle (Int.natCast_nonneg den))
  · contradiction

/-- A clock that is before a time shows less, also for a time before 1970. -/
theorem lt_of_isBefore {clock : Clock} {n : Int} (hn : n ≤ Timestamp.watershed)
    (h : clock.isBefore n = true) : clock.micros < n * microsPerSecond := by
  rw [Timestamp.watershed] at hn
  -- No clock is before a time that lies ages before all dates.
  have hlow : -2 ^ 52 ≤ n := by
    by_contra hlt
    have hages := isBefore_of_isBefore_of_le h (show n ≤ -2 ^ 52 by omega)
    have hreached : -2 ^ 52 * microsPerSecond ≤ clock.micros := by
      have hmin : -2 ^ 52 * microsPerSecond ≤ Timestamp.minWall := by decide
      exact hmin.trans (Timestamp.inRange_iff.mp clock.micros_inRange).1
    rw [isBefore_eq_false_of_micros (by decide) hreached] at hages
    contradiction
  by_contra hge
  rw [isBefore_eq_false_of_micros (by omega) (Int.not_lt.mp hge)] at h
  contradiction

/-! ### Later clocks -/

/-- A clock is before all that a later clock is before. -/
theorem isBefore_of_le {clock later : Clock} (hle : clock.micros ≤ later.micros) {n : Int}
    (h : later.isBefore n = true) : clock.isBefore n = true := by
  obtain ⟨num, den, num', den', hratio, hratio', hmost⟩ : clock.seconds.AtMost later.seconds :=
    Binary64.ofQuotient_mono (by decide) (by decide) clock.natAbs_micros_lt later.natAbs_micros_lt
      hle
  have hden := Int.natCast_pos.mpr (Binary64.den_pos_of_ratio? hratio)
  have hden' := Int.natCast_pos.mpr (Binary64.den_pos_of_ratio? hratio')
  rw [isBefore, hratio', decide_eq_true_eq] at h
  rw [isBefore, hratio, decide_eq_true_eq]
  refine Int.lt_of_mul_lt_mul_right ?_ hden'.le
  calc num * den' ≤ num' * den := hmost
    _ < n * den' * den := Int.mul_lt_mul_of_pos_right h hden
    _ = n * den * den' := Int.mul_right_comm n den' den

end Clock

end FleetToken
