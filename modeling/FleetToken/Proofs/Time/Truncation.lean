import FleetToken.Proofs.Time.Seconds

/-!
# Instants cut to seconds

On the wire an instant is cut toward zero to whole seconds, after it has been rounded to a binary64
number of seconds. So all instants of one second are written alike. Up to `2 ^ 34` seconds from 1970
the seconds begin where they should; later ones begin a few microseconds early. The second zero
reaches to both sides of 1970.

## Main definitions

* `firstMicros`: the first microsecond of a second.
* `InSecond`, `ShareSecond`: an instant lies in a second, and two instants lie in the same one.
* `IsCarried`: an instant that binary64 puts into the second behind its own.

## Main results

* `Timestamp.truncatedSeconds_eq_iff`: which number of seconds is written.
* `Timestamp.truncatedSeconds_eq_tdiv_iff`: where only the fraction of a second is dropped.
* `Timestamp.truncatedSeconds_le`: a later instant is not written as an earlier one.
* `Timestamp.exists_ofJson_of_wireSeconds?`: what is written is read as a date.
-/

namespace FleetToken

/-! ## Seconds -/

/-- The first microsecond that is cut to a number of seconds. -/
def firstMicros (n : Nat) : Nat :=
  n * 1000000 - carriedMicros n

/-- Up to `2 ^ 34` a second begins where it should. -/
theorem firstMicros_eq {n : Nat} (hn : n ≤ 2 ^ 34) : firstMicros n = n * 1000000 := by
  rw [firstMicros, carriedMicros_eq (by omega), if_neg (by omega), Nat.sub_zero]

/-- An instant, in microseconds, lies in a second. Before 1970 seconds are counted backwards. -/
structure InSecond (n micros : Int) : Prop where
  /-- The second has begun. -/
  first_le : firstMicros n.natAbs ≤ micros.natAbs
  /-- The next second has not begun. -/
  lt_next : micros.natAbs < firstMicros (n.natAbs + 1)
  /-- A positive second lies after 1970. -/
  pos : 0 < n → 0 < micros
  /-- A negative second lies before 1970. -/
  neg : n < 0 → micros < 0

/-- Two instants lie in the same second. -/
def ShareSecond (a b : Int) : Prop :=
  ∃ n, InSecond n a ∧ InSecond n b

/-- Few microseconds are carried to any number of seconds. -/
theorem carriedMicros_le_self (n : Nat) : carriedMicros n ≤ n := by
  have hpow : 2 ^ (n - 1).log2 ≤ n - 1 + 1 := by
    rcases Nat.eq_zero_or_pos (n - 1) with hzero | hpos
    · rw [hzero]
      decide
    · exact (Nat.log2_self_le hpos.ne').trans (Nat.le_succ _)
  rw [carriedMicros]
  omega

/-- A later second begins later. -/
theorem firstMicros_succ_le {m n : Nat} (hmn : m < n) (hn : n ≤ 2 ^ 39) :
    firstMicros (m + 1) ≤ firstMicros n := by
  have hcarried := carriedMicros_le hn
  rw [firstMicros, firstMicros]
  rcases Nat.eq_or_lt_of_le hmn with rfl | hlt
  · exact Nat.le_refl _
  · omega

/-- A second that has begun before `2 ^ 38` is no greater than `2 ^ 39`. -/
theorem le_of_firstMicros_le {n micros : Nat} (h : firstMicros n ≤ micros)
    (hmicros : micros < 2 ^ 38 * 1000000) : n ≤ 2 ^ 39 := by
  have hcarried := carriedMicros_le_self n
  rw [firstMicros] at h
  omega

/-- An instant with a fraction of a second lies so far from 1970, and its fraction is so close to a
whole one, that binary64 is carried to the next second. -/
def IsCarried (micros : Int) : Prop :=
  firstMicros (micros.natAbs / 1000000 + 1) ≤ micros.natAbs

/-- No instant up to `2 ^ 34` seconds from 1970 is carried. -/
theorem not_isCarried_of_lt {micros : Int} (h : micros.natAbs < 2 ^ 34 * 1000000) :
    ¬IsCarried micros := by
  rw [IsCarried, firstMicros_eq (by omega)]
  omega

/-- No whole second is carried. -/
theorem not_isCarried_of_dvd {micros : Int} (hdvd : 1000000 ∣ micros)
    (h : micros.natAbs < 2 ^ 38 * 1000000) : ¬IsCarried micros := by
  have hcarried := carriedMicros_le (show micros.natAbs / 1000000 + 1 ≤ 2 ^ 39 by omega)
  rw [IsCarried, firstMicros]
  omega

namespace InSecond

/-- An instant that is not later lies in no later second. -/
theorem le {a b m n : Int} (ha : InSecond m a) (hb : InSecond n b) (hab : a ≤ b)
    (halow : a.natAbs < 2 ^ 38 * 1000000) (hblow : b.natAbs < 2 ^ 38 * 1000000) : m ≤ n := by
  by_contra hlt
  have hpos := ha.pos
  have hneg := hb.neg
  rcases Int.lt_or_le n 0 with hn | hn
  -- Both lie before 1970, where the earlier instant has the greater magnitude.
  · have hbefore := hneg hn
    have hm : m ≤ 0 := by
      by_contra hm
      have hafter := hpos (by omega)
      omega
    have hnext := firstMicros_succ_le (m := m.natAbs) (n := n.natAbs) (by omega)
      (le_of_firstMicros_le hb.first_le hblow)
    have hfirst := hb.first_le
    have hlast := ha.lt_next
    omega
  · have hafter := hpos (by omega)
    have hnext := firstMicros_succ_le (m := n.natAbs) (n := m.natAbs) (by omega)
      (le_of_firstMicros_le ha.first_le halow)
    have hfirst := ha.first_le
    have hlast := hb.lt_next
    omega

/-- An instant lies in one second only. -/
theorem unique {micros m n : Int} (hm : InSecond m micros) (hn : InSecond n micros)
    (hmicros : micros.natAbs < 2 ^ 38 * 1000000) : m = n :=
  Int.le_antisymm (hm.le hn (Int.le_refl _) hmicros hmicros)
    (hn.le hm (Int.le_refl _) hmicros hmicros)

end InSecond

/-! ## Local clocks -/

namespace LocalZone

variable {zone : LocalZone} {again : Bool} {second found : Int}

/-- What a clock shows in the represented years is shown near them. -/
theorem natAbs_lt_of_shown? (h : zone.shown? second = some found) : second.natAbs < 2 ^ 38 - 1 := by
  have hahead := zone.ahead_lt second
  have hfirst : -2 ^ 37 < firstSecond := by decide
  have hend : endSecond < 2 ^ 38 - 100000 := by decide
  simp only [shown?, Option.ite_none_right_eq_some] at h
  omega

/-- The clock has been asked what it shows at the second that is found. -/
theorem exists_shown?_of_utcSecond? (h : zone.utcSecond? again second = some found) :
    ∃ shown, zone.shown? found = some shown := by
  simp only [utcSecond?, Option.bind_eq_bind, Option.bind_eq_some_iff, Option.pure_def,
    Option.some.injEq] at h
  obtain ⟨atSecond, -, atFirst, hfirst, ahead, -, atOther, hother, rfl⟩ := h
  -- It is one of the two places.
  split
  · exact ⟨_, hother⟩
  split
  · exact ⟨_, hfirst⟩
  split
  · rcases min_choice (second - (atSecond - second)) (second - ahead) with hmin | hmin
    · exact ⟨_, hmin ▸ hfirst⟩
    · exact ⟨_, hmin ▸ hother⟩
  · rcases max_choice (second - (atSecond - second)) (second - ahead) with hmax | hmax
    · exact ⟨_, hmax ▸ hfirst⟩
    · exact ⟨_, hmax ▸ hother⟩

/-- The second that is found for a reading is near enough to be counted. -/
theorem natAbs_lt_of_utcSecond? (zone : LocalZone) (h : zone.utcSecond? again second = some found) :
    found.natAbs < 2 ^ 38 - 1 := by
  obtain ⟨shown, hshown⟩ := exists_shown?_of_utcSecond? h
  exact natAbs_lt_of_shown? hshown

end LocalZone

namespace Timestamp

/-! ## Written seconds -/

/-- The magnitude of an instant is cut by itself. -/
theorem exists_truncatedSeconds (negative : Bool) {micros : Nat} (hpos : 0 < micros)
    (hmicros : micros < 2 ^ 38 * 1000000) : ∃ n : Nat,
      truncatedSeconds (if negative then -(micros : Int) else micros)
          = (if negative then -(n : Int) else n)
        ∧ firstMicros n ≤ micros ∧ micros < firstMicros (n + 1) := by
  obtain ⟨scale, hlow, hhigh, hrepresents⟩ :=
    Binary64.exists_represents_ofRatio negative hpos (by decide : 0 < 1000000) (by omega) (by omega)
  have hquotient : Binary64.ofQuotient (if negative then -(micros : Int) else micros) 1000000
      = Binary64.ofRatio negative micros 1000000 := by
    rw [Binary64.ofQuotient]
    cases negative with
    | true => rw [if_pos rfl, decide_eq_true (by omega), Int.natAbs_neg, Int.natAbs_natCast]
    | false => rw [if_neg Bool.false_ne_true, decide_eq_false (by omega), Int.natAbs_natCast]
  have htruncated : truncatedSeconds (if negative then -(micros : Int) else micros)
      = ((Binary64.ofQuotient (if negative then -(micros : Int) else micros)
        1000000).truncate?).getD 0 := rfl
  -- The integer part is at least a number of seconds unless the significand is below it.
  have hreached (n : Nat) (hn : n ≤ 2 ^ 39) :
      n ≤ Binary64.roundHalfEven (micros * 2 ^ scale) 1000000 / 2 ^ scale
        ↔ n * 1000000 ≤ micros + carriedMicros n := by
    rw [Nat.le_div_iff_mul_le (Nat.two_pow_pos scale), ← Nat.not_lt, ← Nat.not_lt,
      roundHalfEven_lt_iff hlow hhigh hn]
  refine ⟨Binary64.roundHalfEven (micros * 2 ^ scale) 1000000 / 2 ^ scale, ?_, ?_⟩
  · rw [htruncated, hquotient, hrepresents.truncate?_eq]
    rfl
  generalize Binary64.roundHalfEven (micros * 2 ^ scale) 1000000 / 2 ^ scale = n at hreached ⊢
  have hn : n ≤ 2 ^ 38 := by
    by_contra hgt
    have hcarried := carriedMicros_le (show 2 ^ 38 + 1 ≤ 2 ^ 39 by decide)
    have hbeyond := (hreached (2 ^ 38 + 1) (by decide)).mp (by omega)
    omega
  have hfirst := (hreached n (by omega)).mp (Nat.le_refl n)
  have hnext := (hreached (n + 1) (by omega)).not.mp (by omega)
  rw [firstMicros, firstMicros]
  omega

/-- An instant is cut to the second that it lies in. -/
theorem inSecond_truncatedSeconds {micros : Int} (hmicros : micros.natAbs < 2 ^ 38 * 1000000) :
    InSecond (truncatedSeconds micros) micros := by
  -- Rounding is symmetric about 1970, so both signs go by their magnitude.
  rcases Int.lt_trichotomy micros 0 with hneg | rfl | hpos
  · obtain ⟨micros, rfl⟩ := Int.exists_eq_neg_ofNat hneg.le
    have hpos : 0 < micros := by omega
    obtain ⟨n, hn, hfirst, hnext⟩ := exists_truncatedSeconds true hpos (by omega)
    rw [if_pos rfl, if_pos rfl] at hn
    rw [hn]
    exact ⟨by simpa using hfirst, by simpa using hnext, by omega, by omega⟩
  · have htruncate : (Binary64.ofQuotient (0 * (1000000 : Nat)) 1000000).truncate? = some 0 :=
      Binary64.truncate?_ofQuotient_mul (by decide) (by decide) (by decide)
    have hzero : truncatedSeconds 0 = 0 := congrArg (Option.getD · 0) htruncate
    rw [hzero]
    exact ⟨by decide, by decide, id, id⟩
  · obtain ⟨micros, rfl⟩ := Int.eq_ofNat_of_zero_le hpos.le
    obtain ⟨n, hn, hfirst, hnext⟩ := exists_truncatedSeconds false (Int.natCast_pos.mp hpos)
      (by omega)
    rw [if_neg Bool.false_ne_true, if_neg Bool.false_ne_true] at hn
    rw [hn]
    exact ⟨by simpa using hfirst, by simpa using hnext, by omega, by omega⟩

/-- Which number of seconds is written for an instant. -/
theorem truncatedSeconds_eq_iff {micros n : Int} (hmicros : micros.natAbs < 2 ^ 38 * 1000000) :
    truncatedSeconds micros = n ↔ InSecond n micros := by
  constructor
  · rintro rfl
    exact inSecond_truncatedSeconds hmicros
  · exact fun h => (inSecond_truncatedSeconds hmicros).unique h hmicros

section Order

variable {a b : Int} (ha : a.natAbs < 2 ^ 38 * 1000000) (hb : b.natAbs < 2 ^ 38 * 1000000)
include ha hb

/-- A later instant is not written as an earlier one. -/
theorem truncatedSeconds_le (hab : a ≤ b) : truncatedSeconds a ≤ truncatedSeconds b :=
  (inSecond_truncatedSeconds ha).le (inSecond_truncatedSeconds hb) hab ha hb

/-- Instants are written alike if and only if they lie in the same second. -/
theorem truncatedSeconds_eq_truncatedSeconds_iff :
    truncatedSeconds a = truncatedSeconds b ↔ ShareSecond a b := by
  rw [truncatedSeconds_eq_iff ha]
  constructor
  · exact fun h => ⟨_, h, inSecond_truncatedSeconds hb⟩
  · rintro ⟨n, hna, hnb⟩
    rwa [(truncatedSeconds_eq_iff hb).mpr hnb]

end Order

/-! ## Exact seconds -/

/-- Apart from the instants that are carried to the next second, an instant is written as what is
left when its fraction of a second is dropped. -/
theorem truncatedSeconds_eq_tdiv_iff {micros : Int} (hmicros : micros.natAbs < 2 ^ 38 * 1000000) :
    truncatedSeconds micros = micros.tdiv 1000000 ↔ ¬IsCarried micros := by
  -- Dropping the fraction is right up to the first microsecond that is carried.
  have hmagnitude : (micros.tdiv 1000000).natAbs = micros.natAbs / 1000000 := Int.natAbs_tdiv _ _
  rw [truncatedSeconds_eq_iff hmicros, IsCarried, not_le]
  constructor
  · intro h
    rw [← hmagnitude]
    exact h.lt_next
  · intro h
    refine ⟨?_, ?_, fun hpos => ?_, fun hneg => ?_⟩
    · rw [hmagnitude, firstMicros]
      omega
    · rwa [hmagnitude]
    · by_contra hle
      have hcut := Int.tdiv_nonneg (Int.neg_nonneg.mpr (Int.not_lt.mp hle))
        (show 0 ≤ (1000000 : Int) by decide)
      rw [Int.neg_tdiv] at hcut
      omega
    · by_contra hle
      have hcut := Int.tdiv_nonneg (Int.not_lt.mp hle) (show 0 ≤ (1000000 : Int) by decide)
      omega

/-- What is written for a date is cut from its instant. -/
theorem wireSeconds?_eq_some_iff {t : Timestamp} {zone : LocalZone} {n : Int} :
    t.wireSeconds? zone = some n ↔
      ∃ micros, t.utcMicros? zone = some micros ∧ n = truncatedSeconds micros := by
  simp only [wireSeconds?, Option.map_eq_some_iff, eq_comm (a := n)]

/-! ## Dates -/

/-- The instants of dates are near enough for their seconds to be counted. -/
theorem natAbs_utcMicros_lt {t : Timestamp} {zone : LocalZone} {micros : Int}
    (hmicros : t.utcMicros? zone = some micros) : micros.natAbs < 2 ^ 38 * 1000000 := by
  have h := inRange_iff.mp t.wall_inRange
  have hmin : -(2 ^ 37 * 1000000) < minWall := by decide
  have hend : endWall < 2 ^ 38 * 1000000 - 86400000000 := by decide
  -- No offset is as long as a day.
  have hinstant (offset : Offset) : (t.wall - offset.micros).natAbs < 2 ^ 38 * 1000000 := by
    have hoffset := offset.micros_lt
    omega
  rw [utcMicros?] at hmicros
  split at hmicros
  · rename_i again hclock
    obtain ⟨second, hsecond, rfl⟩ := Option.map_eq_some_iff.mp hmicros
    have hbound := zone.natAbs_lt_of_utcSecond? hsecond
    have hlow := Int.emod_nonneg t.wall (show microsPerSecond ≠ 0 by decide)
    have hhigh := Int.emod_lt_of_pos t.wall (show 0 < microsPerSecond by decide)
    rw [microsPerSecond] at *
    omega
  · rename_i offset hclock
    obtain rfl := Option.some.inj hmicros
    exact hinstant offset
  · rename_i name offset hclock
    obtain rfl := Option.some.inj hmicros
    exact hinstant offset

/-- What is written for a date is read as a date, though not always as the same one. -/
theorem exists_ofJson_of_wireSeconds? {t : Timestamp} {zone : LocalZone} {n : Int}
    (hn : t.wireSeconds? zone = some n) : ∃ date, ofJson (.int n) = .ok date := by
  obtain ⟨micros, hmicros, rfl⟩ := wireSeconds?_eq_some_iff.mp hn
  have hbound := natAbs_utcMicros_lt hmicros
  have hsecond := inSecond_truncatedSeconds hbound
  exact ⟨_, ofJson_int_eq (le_of_firstMicros_le hsecond.first_le hbound)⟩

end Timestamp

end FleetToken
