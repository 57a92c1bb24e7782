import MetricSeries.Error
import MetricSeries.Time.Wall

/-!
# Time zones

A zone has a standard offset from universal time and, where clocks are changed, a daylight offset
with a rule for each of the two changes. The rules hold for every year, and a zone is known by its
POSIX text.

* `Zone.toWall` is what the clocks of a zone show at an instant. Daylight time holds from the
  instant of the first change, inclusive, to that of the second, exclusive; where the second comes
  earlier in the year, it holds outside the span between them.
* `Zone.toInstant` is the instant at which the clocks show a wall time. A wall time that occurs
  twice stands for its later instant. One that does not occur at all, because clocks are put
  forward over it, is moved forward by an hour.

When changes are compared with a wall time, its milliseconds do not count.

Instants and wall times end at the same point, so at either end of the range there are instants at
which clocks would show a wall time that is out of range, for as long as the offset lasts. What the
clocks show is computed for them all the same, and the program is stopped when it does not fit
(`Error.aborted`). So it is when a wall time of the last hour has no instant and is moved forward.
-/

namespace MetricSeries.Time

/-- When the clocks are changed: on a Sunday of a month, when they show a time of day. -/
structure ClockChange where
  month : Nat
  sunday : Sunday
  /-- The hour that clocks show when they are changed. -/
  hour : Int
  deriving DecidableEq, Repr

/-- The wall time, in seconds, of a clock change in a year. -/
def ClockChange.inYear (c : ClockChange) (year : Int) : Int :=
  c.sunday.dayIn year c.month * 86400 + c.hour * 3600

/-- Daylight time: the seconds by which clocks are put forward, and when that begins and ends.
The beginning is shown by clocks on standard time, the end by clocks on daylight time. -/
structure Daylight where
  shift : Int
  begins : ClockChange
  ends : ClockChange
  deriving DecidableEq, Repr

structure Zone where
  /-- The POSIX text that names the zone. -/
  name : String
  /-- The seconds by which standard time is ahead of universal time. -/
  standard : Int
  daylight : Option Daylight
  deriving DecidableEq, Repr

namespace Zone

def utc : Zone := ⟨"UTC0", 0, none⟩

/-- The zones that are known. -/
def all : List Zone :=
  [ utc,
    ⟨"<+0530>-5:30", 19800, none⟩,
    ⟨"EST5EDT,M3.2.0,M11.1.0", -18000, some ⟨3600, ⟨3, .second, 2⟩, ⟨11, .first, 2⟩⟩⟩,
    ⟨"CET-1CEST,M3.5.0,M10.5.0/3", 3600, some ⟨3600, ⟨3, .last, 2⟩, ⟨10, .last, 3⟩⟩⟩,
    ⟨"<+00>0<+02>-2,M3.5.0/1,M10.5.0/3", 0, some ⟨7200, ⟨3, .last, 1⟩, ⟨10, .last, 3⟩⟩⟩,
    ⟨"AEST-10AEDT,M10.1.0,M4.1.0/3", 36000, some ⟨3600, ⟨10, .first, 2⟩, ⟨4, .first, 3⟩⟩⟩,
    ⟨"<+1030>-10:30<+11>-11,M10.1.0,M4.1.0", 37800,
      some ⟨1800, ⟨10, .first, 2⟩, ⟨4, .first, 2⟩⟩⟩,
    ⟨"<-03>3<-02>,M10.3.0/0,M2.3.0/0", -10800, some ⟨3600, ⟨10, .third, 0⟩, ⟨2, .third, 0⟩⟩⟩ ]

def ofName? (name : String) : Option Zone := all.find? fun z => z.name = name

/-! ### From instants to wall times -/

/-- Whether daylight time holds at an instant, in seconds, of a zone with the given rules. -/
def holdsAt (standard : Int) (d : Daylight) (seconds : Int) : Bool :=
  let year := yearOfDay (seconds / 86400)
  let begins := d.begins.inYear year - standard
  -- The end is shown by clocks on daylight time.
  let ends := d.ends.inYear year - (standard + d.shift)
  if begins ≤ ends then begins ≤ seconds && seconds < ends
  -- Daylight time lasts over the turn of the year.
  else !(ends ≤ seconds && seconds < begins)

def offsetAt (z : Zone) (t : Instant) : Int :=
  match z.daylight with
  | none => z.standard
  | some d =>
    if holdsAt z.standard d (t / 1000) then z.standard + d.shift else z.standard

/-- What the clocks of a zone show at an instant. An instant out of range is an error, and one in
range at which they would show what is out of range stops the program. -/
def toWall (z : Zone) (t : Instant) : Except Error Wall :=
  let w := t + z.offsetAt t * 1000
  if inRange t then
    if inRange w then .ok w else .error .aborted
  else .error (.invalidDateTime (String.ofList (Text.decimalInt t)))

/-! ### From wall times to instants -/

/-- The daylight offset, as far as it is ahead of standard time, at a wall time in seconds; none
where clocks are put forward over it. -/
def shiftAtWall? (d : Daylight) (seconds : Int) : Option Int :=
  let year := yearOfDay (seconds / 86400)
  let gapStart := d.begins.inYear year
  let gapEnd := gapStart + d.shift
  let foldEnd := d.ends.inYear year
  let foldStart := foldEnd - d.shift
  if gapStart < foldEnd then
    -- The second at which the gap starts is a part of it only where daylight time lasts over the
    -- turn of the year.
    if seconds ≤ gapStart then some 0
    else if seconds < gapEnd then none
    else if seconds < foldStart then some d.shift
    else some 0
  else
    if seconds < foldStart then some d.shift
    else if seconds < gapStart then some 0
    else if seconds < gapEnd then none
    else some d.shift

def offsetAtWall? (z : Zone) (w : Wall) : Option Int :=
  match z.daylight with
  | none => some z.standard
  | some d => (shiftAtWall? d (w / 1000)).map (z.standard + ·)

/-- The instant at which the clocks of a zone show a wall time, the later one of two; none when
they never do, or only out of range. -/
def instantOf? (z : Zone) (w : Wall) : Option Instant :=
  (z.offsetAtWall? w).bind fun offset =>
    let t := w - offset * 1000
    if inRange t then some t else none

/-- The instant that a wall time stands for: the one at which the clocks of a zone show it, or
else the one at which they show an hour more. If that hour leads out of range, it stops the
program. -/
def toInstant (z : Zone) (w : Wall) : Except Error Instant :=
  match z.instantOf? w with
  | some t => .ok t
  | none =>
    if inRange (w + hourMillis) then
      match z.instantOf? (w + hourMillis) with
      | some t => .ok t
      | none => .error (.invalidDateTime (Wall.fullText w))
    else .error .aborted

end Zone

end MetricSeries.Time
