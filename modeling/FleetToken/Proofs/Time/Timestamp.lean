import FleetToken.Time.Duration
import Mathlib.Tactic.Common

/-!
# Dates

A date is made of a reading in a represented year, and moved on by a span as long as the year it
comes to is represented. Where a clock has an offset its readings are instants, and instants are the
same in every zone.

## Main results

* `WallReading.timestamp?_eq_some_iff`: the readings that dates are made of.
* `Timestamp.utcMicros?_of_instant?`: instants are the same in every zone.
* `Timestamp.le?_of_add?`: a date and the date a span later.
-/

namespace FleetToken

namespace Timestamp

/-- A reading is represented from the first one of the year 1 to the last one of the year 9999. -/
theorem inRange_iff {wall : Int} : inRange wall = true ↔ minWall ≤ wall ∧ wall < endWall := by
  rw [inRange, Bool.and_eq_true_iff, decide_eq_true_eq, decide_eq_true_eq]

end Timestamp

/-- A date is made of the reading with its clock and its time. -/
theorem WallReading.timestamp?_eq_some_iff {r : WallReading} {t : Timestamp} :
    r.timestamp? = some t ↔ r = ⟨t.wall, t.clock⟩ := by
  obtain ⟨wall, clock⟩ := r
  rw [timestamp?, Option.dite_none_right_eq_some, WallReading.mk.injEq]
  simp only [Option.some.injEq, Timestamp.ext_iff, exists_prop, and_iff_right_iff_imp]
  rintro ⟨rfl, -⟩
  exact t.wall_inRange

namespace Timestamp

/-! ## Instants -/

/-- An instant is the same in every zone. -/
theorem utcMicros?_of_instant? {t : Timestamp} {micros : Int} (h : t.instant? = some micros)
    (zone : LocalZone) : t.utcMicros? zone = some micros := by
  rw [instant?, offset] at h
  rw [utcMicros?]
  cases hclock : t.clock with
  | naive again =>
    rw [hclock] at h
    contradiction
  | fixed offset =>
    rw [hclock] at h
    exact h
  | region name offset =>
    rw [hclock] at h
    exact h

/-- The instant of a reading of UTC is what is read. -/
theorem instant?_of_clock_eq {t : Timestamp} (h : t.clock = .fixed 0) :
    t.instant? = some t.wall := by
  rw [instant?, offset, h]
  exact congrArg some (Int.sub_zero t.wall)

/-- Readings of UTC are compared as they are. -/
theorem le?_of_clock_eq {a b : Timestamp} (ha : a.clock = .fixed 0) (hb : b.clock = .fixed 0) :
    a.le? b = some (decide (a.wall ≤ b.wall)) := by
  have hother : a.clock.isSame b.clock = false := by
    rw [ha, hb]
    rfl
  rw [le?, hother, if_neg Bool.false_ne_true, instant?_of_clock_eq ha, instant?_of_clock_eq hb]

/-! ## Later dates -/

variable {t later : Timestamp} {span : Duration}

/-- There is no date a span later if its year is not represented. -/
theorem add?_eq_none_iff : t.add? span = none ↔ inRange (t.wall + span.micros) = false := by
  simp [add?, WallReading.timestamp?]

variable (h : t.add? span = some later)
include h

/-- The wall clock is moved on by the span. -/
theorem wall_of_add? : later.wall = t.wall + span.micros :=
  (WallReading.mk.inj (WallReading.timestamp?_eq_some_iff.mp h)).1.symm

/-- The later date is one of the same clock. -/
theorem clock_of_add? : later.clock = t.clock :=
  (WallReading.mk.inj (WallReading.timestamp?_eq_some_iff.mp h)).2.symm

/-- The later date is not after the first one if the span is not positive. -/
theorem le?_of_add? : later.le? t = some (decide (span.micros ≤ 0)) := by
  have hwall : later.wall ≤ t.wall ↔ span.micros ≤ 0 := by
    rw [wall_of_add? h]
    omega
  cases hclock : t.clock with
  | naive again => simp [le?, clock_of_add? h, hclock, WallClock.isSame, hwall]
  | region name offset => simp [le?, clock_of_add? h, hclock, WallClock.isSame, hwall]
  | fixed offset =>
    simp only [le?, instant?, Timestamp.offset, clock_of_add? h, hclock, WallClock.isSame,
      WallClock.offset?, Bool.false_eq_true, ↓reduceIte, Option.map_some, Option.some.injEq,
      decide_eq_decide]
    omega

/-- The later date is after the first one if the span is positive. -/
theorem wall_lt_iff_of_add? : t.wall < later.wall ↔ 0 < span.micros := by
  rw [wall_of_add? h]
  omega

end Timestamp

end FleetToken
