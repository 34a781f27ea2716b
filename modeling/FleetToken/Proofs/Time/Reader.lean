import FleetToken.Proofs.Binary64.Rounding
import FleetToken.Proofs.Text.Numeral
import FleetToken.Proofs.Time.Timestamp
import FleetToken.Time.Reader
import Mathlib.Data.List.TakeDrop

/-!
# Numbers as dates

A number that a claim states as a date counts seconds or, beyond the watershed, milliseconds. The
instant that is read is never before the whole units that the number counts. A text is no numeral
of an integer and a date at once, so that both readers of a text find the same integer in it.

## Main definitions

* `Json.number?`: the number that a value states.
* `Timestamp.unitMicros`: the unit that a number counts.

## Main results

* `Timestamp.ofNumber?_of_ofText?`: the date that the text of an integer is read as.
* `Timestamp.utc_of_ofJson`: the date that a number is read as.
-/

namespace FleetToken

/-- The number that a value states, as a numerator and a denominator. A text states an integer. -/
def Json.number? : Json → Option (Int × Nat)
  | .int n => some (n, 1)
  | .float x => x.ratio?
  | .string t => (Text.readInt? t).map (·, 1)
  | _ => none

namespace Timestamp

/-! ## Texts of integers -/

theorem skip?_eq_some_iff {c : Char} {t rest : Text} :
    skip? c t = some rest ↔ t = CodePoint.ofChar c :: rest := by
  cases t with
  | nil => simp [skip?]
  | cons d tail =>
    rw [skip?]
    split
    · rename_i hd
      simp [hd]
    · rename_i hd
      simp [hd]

/-- A date begins with a digit and has a hyphen behind it. -/
theorem exists_cons_of_date? {t : Text} {found : CivilDate × Text} (h : date? t = some found) :
    ∃ d rest, t = d :: rest ∧ d.isAsciiDigit = true ∧ CodePoint.ofChar '-' ∈ t := by
  rw [date?] at h
  obtain ⟨⟨year, afterYear⟩, hyear, hrest⟩ := Option.bind_eq_some_iff.mp h
  obtain ⟨afterHyphen, hhyphen, -⟩ := Option.bind_eq_some_iff.mp hrest
  rw [digits?] at hyear
  split at hyear
  · rename_i hdigits
    obtain ⟨-, rfl⟩ := Prod.mk.inj (Option.some.inj hyear)
    have hmem : CodePoint.ofChar '-' ∈ t.drop 4 := by
      rw [skip?_eq_some_iff.mp hhyphen]
      exact List.mem_cons_self
    cases t with
    | nil => contradiction
    | cons d rest =>
      rw [List.take_succ_cons, List.all_cons, Bool.and_eq_true_iff] at hdigits
      exact ⟨d, rest, rfl, hdigits.2.1, List.mem_of_mem_drop hmem⟩
  · contradiction

/-- A number with a fraction has a point. -/
theorem point_mem_of_float? {t : Text} {x : Binary64} (h : float? t = some x) :
    CodePoint.ofChar '.' ∈ t := by
  rw [float?] at h
  obtain ⟨afterPoint, hafter, -⟩ := Option.bind_eq_some_iff.mp h
  have hpoint : skip? '.' (Json.spanDigits (Text.readSign t).2).2 = some afterPoint := hafter
  have hmem : CodePoint.ofChar '.' ∈ (Json.spanDigits (Text.readSign t).2).2 := by
    rw [skip?_eq_some_iff.mp hpoint]
    exact List.mem_cons_self
  rw [Json.spanDigits, List.span_eq_takeWhile_dropWhile] at hmem
  exact Text.mem_of_mem_readSign ((List.dropWhile_suffix _).subset hmem)

section Integers

variable {t : Text} {n : Int}

/-- The text of an integer is no date, which has a hyphen in it. -/
theorem date?_eq_none_of_readInt? (h : Text.readInt? t = some n) : date? t = none := by
  cases hdate : date? t with
  | none => rfl
  | some found =>
    obtain ⟨d, rest, rfl, hd, hhyphen⟩ := exists_cons_of_date? hdate
    exact absurd (Text.mem_of_readInt?_cons hd h hhyphen) Text.not_isNumeric_hyphen

/-- Nor is it a number with a fraction, which has a point. -/
theorem float?_eq_none_of_readInt? (h : Text.readInt? t = some n) : float? t = none := by
  cases hfloat : float? t with
  | none => rfl
  | some x =>
    rcases Text.mem_of_readInt? h (point_mem_of_float? hfloat) with hnumeric | hsign
    · exact absurd hnumeric Text.not_isNumeric_point
    · exact absurd hsign (by decide)

/-- The date that is read in the text of an integer is the one of this integer. -/
theorem ofNumber?_of_ofText? (h : Text.readInt? t = some n) {date : WallReading}
    (hdate : ofText? t = some date) : ofNumber? n = some date := by
  have hnone := date?_eq_none_of_readInt? h
  have hdateTime : ofDateTime? t = none := by
    rw [ofDateTime?, hnone]
    rfl
  have hdateAlone : ofDate? t = none := by
    rw [ofDate?, hnone]
    rfl
  rw [ofText?, hdateTime, hdateAlone, Option.none_or, Option.or_none, ofNumeral?] at hdate
  simp only at hdate
  split at hdate
  · rename_i hdigits
    rw [Text.readInt?_of_digits hdigits.1 (List.all_eq_true.mp hdigits.2) h]
    exact hdate
  · rw [float?_eq_none_of_readInt? h] at hdate
    contradiction

end Integers

/-! ## Dates of numbers -/

/-- The microseconds of what a number counts: seconds up to the watershed, and milliseconds
beyond. -/
def unitMicros (num : Int) (den : Nat) : Int :=
  if num.natAbs ≤ watershed.natAbs * den then microsPerSecond else 1000

/-- Microseconds are read as an instant in UTC. -/
theorem eq_of_utc? {micros : Int} {r : WallReading} (h : utc? micros = some r) :
    r = ⟨micros, .fixed 0⟩ := by
  rw [utc?] at h
  split at h
  · exact (Option.some.inj h).symm
  · contradiction

/-- An integer is read as so many of its units. -/
theorem eq_of_ofNumber? {n : Int} {r : WallReading} (h : ofNumber? n = some r) :
    r = ⟨n * unitMicros n 1, .fixed 0⟩ := by
  rw [eq_of_utc? h, unitMicros, Nat.mul_one, mul_ite]

/-- A number with a fraction is read as its whole units and its fraction, to the nearest
microsecond. -/
theorem ofFloat?_eq {x : Binary64} {num : Int} {den : Nat} (hratio : x.ratio? = some (num, den)) :
    ofFloat? x =
      (Binary64.ofQuotient ((num - num / den * den) * unitMicros num den) den).ratio?.bind
        fun part => utc? (num / den * unitMicros num den
          + (2 * part.1 + part.2) / (2 * part.2)) := by
  rw [ofFloat?, hratio]
  rfl

/-- The fraction of a unit is rounded, but not below zero. -/
theorem exists_of_ofFloat? {x : Binary64} {num : Int} {den : Nat}
    (hratio : x.ratio? = some (num, den)) {r : WallReading} (h : ofFloat? x = some r) :
    ∃ micros, r = ⟨micros, .fixed 0⟩ ∧ num / den * unitMicros num den ≤ micros := by
  rw [ofFloat?_eq hratio] at h
  obtain ⟨⟨partNum, partDen⟩, hpart, hutc⟩ := Option.bind_eq_some_iff.mp h
  refine ⟨_, eq_of_utc? hutc, ?_⟩
  have hunit : 0 ≤ unitMicros num den := by
    rw [unitMicros, microsPerSecond]
    split <;> omega
  have hfraction : 0 ≤ (num - num / den * den) * unitMicros num den := by
    refine Int.mul_nonneg ?_ hunit
    have hden : (den : Int) ≠ 0 := by
      have := Binary64.den_pos_of_ratio? hratio
      omega
    exact Int.sub_nonneg_of_le (Int.ediv_mul_le num hden)
  have hrounded : 0 ≤ partNum := Binary64.nonneg_of_ratio?_ofQuotient hfraction hpart
  refine Int.le_add_of_nonneg_right (Int.ediv_nonneg ?_ ?_)
  · omega
  · omega

/-- A date is accepted if its reading is found, as its year is represented. -/
theorem orIssue_eq_ok_iff {kind : IssueKind} {found : Option WallReading} {t : Timestamp} :
    orIssue kind found = .ok t ↔ found = some ⟨t.wall, t.clock⟩ := by
  cases found with
  | none => simp [orIssue, Checked.fault]
  | some reading =>
    rw [Option.some.injEq, ← WallReading.timestamp?_eq_some_iff, orIssue]
    cases reading.timestamp? with
    | none => simp [Checked.fault]
    | some date => simp

/-- The date of a number is an instant, and at least the whole units that the number counts. -/
theorem utc_of_ofJson {value : Json} {num : Int} {den : Nat}
    (hnumber : value.number? = some (num, den)) {t : Timestamp} (h : ofJson value = .ok t) :
    t.clock = .fixed 0 ∧ num / den * unitMicros num den ≤ t.wall := by
  -- Integers and texts of digits are read in one way, and floats in another.
  have hinteger {n : Int} (hn : ofNumber? n = some ⟨t.wall, t.clock⟩)
      (hvalue : (n, 1) = (num, den)) :
      t.clock = .fixed 0 ∧ num / den * unitMicros num den ≤ t.wall := by
    obtain ⟨rfl, rfl⟩ := Prod.mk.inj hvalue
    obtain ⟨hwall, hclock⟩ := WallReading.mk.inj (eq_of_ofNumber? hn)
    refine ⟨hclock, ?_⟩
    rw [Int.natCast_one, Int.ediv_one, hwall]
  cases value with
  | int n =>
    rw [ofJson] at h
    split at h
    · exact hinteger (orIssue_eq_ok_iff.mp h) (Option.some.inj hnumber)
    · contradiction
  | float x =>
    obtain ⟨micros, hreading, hmicros⟩ := exists_of_ofFloat? hnumber (orIssue_eq_ok_iff.mp h)
    obtain ⟨hwall, hclock⟩ := WallReading.mk.inj hreading
    exact ⟨hclock, hwall ▸ hmicros⟩
  | string text =>
    obtain ⟨n, hn, hvalue⟩ := Option.map_eq_some_iff.mp hnumber
    rw [ofJson] at h
    split at h
    · contradiction
    · exact hinteger (ofNumber?_of_ofText? hn (orIssue_eq_ok_iff.mp h)) hvalue
  | _ => contradiction

end Timestamp

end FleetToken
