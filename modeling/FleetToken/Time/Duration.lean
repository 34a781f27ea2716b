import FleetToken.Json.Basic
import FleetToken.Time.Timestamp

/-!
# Durations

The validity of a token: a span of whole microseconds, of less than 10^9 days either way.

## Main definitions

- `Duration`, with `Duration.ofMicros?` and `Duration.ofSeconds?`.
- `Duration.ofUnits`: the sum of weeks, days and smaller units.
-/

namespace FleetToken

/-- A span of time in microseconds. -/
structure Duration where
  /-- The microseconds of the span. -/
  micros : Int
deriving DecidableEq

namespace Duration

/-- The most days that a span may have. -/
def maxDays : Int := 999999999

/-- The span of some microseconds, if its days can be counted. -/
def ofMicros? (micros : Int) : Option Duration :=
  let days := micros / microsPerDay
  if -maxDays ≤ days ∧ days ≤ maxDays then some ⟨micros⟩ else none

/-- The span of some seconds. -/
def ofSeconds? (seconds : Int) : Option Duration :=
  ofMicros? (seconds * microsPerSecond)

/-- The units of a span with their microseconds, the smallest first. -/
def units : List (String × Int) :=
  [("microseconds", 1), ("milliseconds", 1000), ("seconds", microsPerSecond),
    ("minutes", 60 * microsPerSecond), ("hours", 3600 * microsPerSecond), ("days", microsPerDay),
    ("weeks", 7 * microsPerDay)]

/-- Why counts of units make no span. -/
inductive Fault where
  /-- A unit is not known, or a count is no number. -/
  | notCounts
  /-- A count is no number although it is kept like one. -/
  | notANumber
  /-- The span is out of range. -/
  | outOfRange
deriving DecidableEq

/-- The whole microseconds of a count of some unit, and the rest of one as a quotient. The fraction
of a count is multiplied in binary64; a truth value counts as zero or one. -/
def scaled (unit : Int) : Json → Except Fault (Int × Int × Nat)
  | .int n => .ok (n * unit, 0, 1)
  | .bool b => .ok (if b then unit else 0, 0, 1)
  | .float x =>
    let parts := do
      let (num, den) ← x.ratio?
      let whole := num.tdiv den
      let (num, den) ← (Binary64.ofQuotient ((num - whole * den) * unit) den).ratio?
      let more := num.tdiv den
      return (whole * unit + more, num - more * den, den)
    match parts, x.view with
    | some parts, _ => .ok parts
    | none, .nan => .error .notANumber
    | none, _ => .error .outOfRange
  | _ => .error .notCounts

/-- The sum of two quotients, rounded to binary64. -/
def addRests? (a b : Int × Nat) : Option (Int × Nat) :=
  (Binary64.ofQuotient (a.1 * b.2 + b.1 * a.2) (a.2 * b.2)).ratio?

/-- The sum of counts of units, from the smallest unit on, to the nearest microsecond and in a tie
to the even one. -/
def ofUnits (counts : List (Text × Json)) : Except Fault Duration := do
  if !counts.all fun (word, _) => units.any fun (known, _) => Text.ofString known = word then
    throw .notCounts
  -- The rests of fractions are added in the order of the units, not in that of the counts.
  let terms ← units.filterMapM fun (word, unit) =>
    match counts.lookup (Text.ofString word) with
    | some count => (scaled unit count).map some
    | none => .ok none
  match (terms.map (·.2)).foldlM addRests? (0, 1) with
  | none => throw .outOfRange
  | some (num, den) =>
    let total := (terms.map (·.1)).foldl (· + ·) 0 * den + num
    let rounded := Binary64.roundHalfEven total.natAbs den
    match ofMicros? (if total < 0 then -(rounded : Int) else rounded) with
    | some d => return d
    | none => throw .outOfRange

end Duration

/-- The reading a span later, on a clock that keeps its offset; none beyond the years that are
represented. -/
def Timestamp.add? (t : Timestamp) (d : Duration) : Option Timestamp :=
  WallReading.timestamp? ⟨t.wall + d.micros, t.clock⟩

/-- A clock: how many microseconds it shows since the start of 1970 in UTC. It shows no year that is
not represented. -/
structure Clock where
  /-- The microseconds that the clock shows. -/
  micros : Int
  micros_inRange : Timestamp.inRange micros = true := by decide

/-- The represented years begin with a whole second. -/
theorem Timestamp.inRange_wholeSecond {micros : Int} (h : inRange micros = true) :
    inRange (micros / microsPerSecond * microsPerSecond) = true := by
  have hmin : minWall = minWall / 1000000 * 1000000 := by decide
  rw [inRange, Bool.and_eq_true_iff, decide_eq_true_eq, decide_eq_true_eq] at h ⊢
  rw [microsPerSecond]
  omega

namespace Clock

/-- The instant that the clock shows, cut to the second. -/
def wholeSecond (clock : Clock) : Timestamp :=
  .ofSeconds (clock.micros / microsPerSecond) (Timestamp.inRange_wholeSecond clock.micros_inRange)

/-- The instant that the clock shows. -/
def instant (clock : Clock) : Timestamp :=
  .utc clock.micros clock.micros_inRange

/-- The seconds that the clock shows, as a binary64 number. -/
def seconds (clock : Clock) : Binary64 :=
  .ofQuotient clock.micros microsPerSecond.toNat

end Clock

end FleetToken
