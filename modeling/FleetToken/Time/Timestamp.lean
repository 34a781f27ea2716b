import FleetToken.Binary64.Basic
import FleetToken.Text.Basic
import FleetToken.Time.Zone

/-!
# Timestamps

A date in a claim is a reading of a wall clock in microseconds, in the years 1 to 9999. With an
offset from UTC it is an instant; without one it is naive, a reading of the clock of the place where
the program runs, and cannot be compared with an instant. On the wire a date is whole seconds of
UTC.

## Main definitions

- `Offset`, `WallClock`: how far a clock is ahead of UTC, and whose clock it is.
- `Timestamp`, with `Timestamp.instant?` and `Timestamp.le?`; `WallReading.timestamp?` makes one.
- `Timestamp.wireSeconds?`: the number written into tokens.
- `Timestamp.toText`: the written form.
-/

namespace FleetToken

/-- The microseconds of a second. -/
def microsPerSecond : Int := 1000000

/-- The microseconds of a day. -/
def microsPerDay : Int := secondsPerDay * microsPerSecond

/-- How far a clock is ahead of UTC: less than a day. -/
structure Offset where
  /-- The microseconds that it is ahead. -/
  micros : Int
  micros_lt : micros.natAbs < 86400000000
deriving DecidableEq

/-- The clock shows UTC. -/
instance : OfNat Offset 0 where
  ofNat := ⟨0, by decide⟩

/-- The offset of some minutes. -/
def Offset.ofMinutes? (minutes : Int) : Option Offset :=
  let micros := minutes * (60 * microsPerSecond)
  if h : micros.natAbs < 86400000000 then some ⟨micros, h⟩ else none

/-- A clock that readings are taken from. -/
inductive WallClock where
  /-- The clock of the place where the program runs. Of two times at which it shows a reading the
  later one may be meant, when it shows it `again`. -/
  | naive (again : Bool := false)
  /-- A clock that is always as far ahead of UTC. -/
  | fixed (offset : Offset)
  /-- The clock of a region, and how far it was ahead of UTC at the reading. -/
  | region (name : Text) (offset : Offset)
deriving DecidableEq

namespace WallClock

/-- How far the clock was ahead of UTC at the reading. -/
def offset? : WallClock → Option Offset
  | .naive _ => none
  | .fixed offset => some offset
  | .region _ offset => some offset

/-- Whether two readings are taken from one clock that may be set back and forward. -/
def isSame : WallClock → WallClock → Bool
  | .naive _, .naive _ => true
  | .region name _, .region other _ => name = other
  | _, _ => false

end WallClock

namespace Timestamp

/-- The first reading of the year 1. -/
def minWall : Int := CivilDate.dayNumber ⟨CivilDate.minYear, 1, 1⟩ * microsPerDay

/-- The first reading after the year 9999. -/
def endWall : Int := CivilDate.dayNumber ⟨CivilDate.maxYear + 1, 1, 1⟩ * microsPerDay

/-- Whether a wall clock reading lies in the years that are represented. -/
def inRange (wall : Int) : Bool :=
  minWall ≤ wall && wall < endWall

end Timestamp

/-- A reading of a wall clock in a year that is represented. -/
@[ext]
structure Timestamp where
  /-- Microseconds on the wall clock since it showed the start of 1970. -/
  wall : Int
  /-- The clock that it is taken from. -/
  clock : WallClock
  wall_inRange : Timestamp.inRange wall = true := by decide
deriving DecidableEq

/-- A reading of a wall clock in any year. -/
structure WallReading where
  /-- Microseconds on the wall clock since it showed the start of 1970. -/
  wall : Int
  /-- The clock that it is taken from. -/
  clock : WallClock

/-- The reading, if its year is represented. -/
def WallReading.timestamp? (r : WallReading) : Option Timestamp :=
  if h : Timestamp.inRange r.wall = true then some ⟨r.wall, r.clock, h⟩ else none

namespace Timestamp

/-- The instant a number of microseconds after the start of 1970 in UTC. -/
def utc (micros : Int) (h : inRange micros = true := by decide) : Timestamp :=
  ⟨micros, .fixed 0, h⟩

/-- The instant a number of seconds after the start of 1970 in UTC. -/
def ofSeconds (seconds : Int) (h : inRange (seconds * microsPerSecond) = true := by decide) :
    Timestamp :=
  utc (seconds * microsPerSecond) h

/-- How far the wall clock was ahead of UTC; none when that is not known. -/
def offset (t : Timestamp) : Option Offset :=
  t.clock.offset?

/-- The instant of a reading that has an offset, in microseconds since the start of 1970 in UTC. -/
def instant? (t : Timestamp) : Option Int :=
  t.offset.map (t.wall - ·.micros)

/-- Whether the first reading is not after the second one. Readings of one clock are compared as
they are, also where it was set back between them; readings of other clocks are compared as
instants. A naive reading cannot be compared with an instant. -/
def le? (a b : Timestamp) : Option Bool :=
  if a.clock.isSame b.clock then some (decide (a.wall ≤ b.wall))
  else
    match a.instant?, b.instant? with
    | some x, some y => some (decide (x ≤ y))
    | _, _ => none

/-- The microseconds between the start of 1970 in UTC and the reading. A naive reading is looked up
on the clock of the place where the program runs. -/
def utcMicros? (t : Timestamp) (zone : LocalZone) : Option Int :=
  match t.clock with
  | .naive again =>
    (zone.utcSecond? again (t.wall / microsPerSecond)).map
      (· * microsPerSecond + t.wall % microsPerSecond)
  | .fixed offset => some (t.wall - offset.micros)
  | .region _ offset => some (t.wall - offset.micros)

/-- The seconds since the start of 1970 in binary64, cut toward zero. -/
def truncatedSeconds (micros : Int) : Int :=
  ((Binary64.ofQuotient micros microsPerSecond.toNat).truncate?).getD 0

/-- The whole seconds written into tokens. A naive reading near the first represented day or the
last one may have no such number. -/
def wireSeconds? (t : Timestamp) (zone : LocalZone := .utc) : Option Int :=
  (t.utcMicros? zone).map truncatedSeconds

/-- A number with at least `width` digits. -/
def padded (width : Nat) (n : Int) : Text :=
  let digits := Text.ofNat n.natAbs
  List.replicate (width - digits.length) (CodePoint.ofChar '0') ++ digits

/-- Hours and minutes, the seconds and the microseconds that are needed beyond them. -/
def clockText (micros : Int) (withSeconds : Bool) : Text :=
  let second := micros / microsPerSecond
  let fraction := micros % microsPerSecond
  let colon := CodePoint.ofChar ':'
  padded 2 (second / 3600) ++ colon :: padded 2 (second / 60 % 60)
    ++ (if withSeconds || second % 60 ≠ 0 || fraction ≠ 0 then colon :: padded 2 (second % 60)
      else [])
    ++ (if fraction = 0 then [] else CodePoint.ofChar '.' :: padded 6 fraction)

/-- An offset behind its sign. -/
def offsetText (offset : Offset) : Text :=
  CodePoint.ofChar (if offset.micros < 0 then '-' else '+')
    :: clockText offset.micros.natAbs false

/-- The date, the letter T, the time, the microseconds unless there are none, and the offset if it
is known. -/
def toText (t : Timestamp) : Text :=
  let date := CivilDate.ofDayNumber (t.wall / microsPerDay)
  let dash := CodePoint.ofChar '-'
  padded 4 date.year ++ dash :: padded 2 date.month ++ dash :: padded 2 date.day
    ++ CodePoint.ofChar 'T' :: clockText (t.wall % microsPerDay) true
    ++ (match t.offset with
      | some offset => offsetText offset
      | none => [])

end Timestamp

end FleetToken
