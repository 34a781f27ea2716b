import FleetToken.Time.Civil

/-!
# Time zones

The clock of a place is ahead of UTC by some seconds, and not always by the same. Where it is set
back it shows some seconds twice, and where it is set forward it skips some. So a second that it
shows is counted in UTC by a search: the clock is asked near that second, and how far it is ahead
there gives the places to look at.

## Main definitions

- `LocalZone`: how far the clock of a place is ahead of UTC.
- `LocalZone.shown?`: what the clock shows at a second of UTC.
- `LocalZone.utcSecond?`: the second of UTC at which the clock shows a second.
-/

namespace FleetToken

/-- The seconds of a day. -/
def secondsPerDay : Int := 86400

/-- The clock of the place where a program runs. Seconds are counted from the start of 1970. -/
structure LocalZone where
  /-- How many seconds the clock is ahead at a second of UTC. -/
  ahead : Int → Int
  /-- No clock is 25 hours ahead or behind. -/
  ahead_lt : ∀ second, (ahead second).natAbs < 90000

namespace LocalZone

/-- A clock that shows UTC. -/
def utc : LocalZone where
  ahead _ := 0
  ahead_lt _ := by decide

/-- The first second of the year 1. -/
def firstSecond : Int := CivilDate.dayNumber ⟨CivilDate.minYear, 1, 1⟩ * secondsPerDay

/-- The first second after the year 9999. -/
def endSecond : Int := CivilDate.dayNumber ⟨CivilDate.maxYear + 1, 1, 1⟩ * secondsPerDay

/-- What the clock shows at a second of UTC, if that lies in the years 1 to 9999. -/
def shown? (zone : LocalZone) (second : Int) : Option Int :=
  let shown := second + zone.ahead second
  if firstSecond ≤ shown ∧ shown < endSecond then some shown else none

/-- How far the clock is ahead at another place than `first`, where it shows `atFirst`. If this is
the second that is looked for, the other place is a day earlier, or later if the clock shows the
second `again`. -/
def otherAhead? (zone : LocalZone) (again : Bool) (second first atFirst : Int) : Option Int :=
  if atFirst = second then
    let near := if again then first + secondsPerDay else first - secondsPerDay
    (zone.shown? near).map (· - near)
  else some (atFirst - first)

/-- The second of UTC at which the clock shows a second. Of two such seconds the earlier one is
meant, or the later one if the clock shows it `again`. A second that the clock skips is counted as
if it had not been set forward yet, or as if it had been already. -/
def utcSecond? (zone : LocalZone) (again : Bool) (second : Int) : Option Int := do
  let atSecond ← zone.shown? second
  let first := second - (atSecond - second)
  let atFirst ← zone.shown? first
  let other := second - (← zone.otherAhead? again second first atFirst)
  let atOther ← zone.shown? other
  return if atOther = second then other
    else if atFirst = second then first
    else if again then min first other else max first other

end LocalZone

end FleetToken
