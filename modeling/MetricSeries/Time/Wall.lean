import MetricSeries.Time.Calendar

/-!
# Wall times

A wall time is what the clock and the calendar on the wall show: a date and a time of day. It is
counted in milliseconds from midnight at the start of 1 January 1970, as if all days had 24 hours,
so that arithmetic on wall times is arithmetic on integers. Instants are counted in milliseconds
from the epoch; both have the same range, the years -262143 to 262142.
-/

namespace MetricSeries.Time

/-- A point in time, in milliseconds since the epoch. -/
abbrev Instant := Int

/-- What a wall clock shows, in milliseconds since midnight of 1 January 1970 on that clock. -/
abbrev Wall := Int

def minuteMillis : Int := 60000

def hourMillis : Int := 3600000

def dayMillis : Int := 86400000

/-- The earliest point in time, and the earliest wall time. -/
def earliest : Int := -8334601228800000

def latest : Int := 8210266876799999

def inRange (t : Int) : Bool := earliest ≤ t && t ≤ latest

/-- A point in time without its seconds: the last full minute. -/
def truncateToMinute (t : Instant) : Instant := t - t % minuteMillis

namespace Wall

def ofDate (d : Date) (hour minute : Nat) : Wall :=
  d.toDay * dayMillis + hour * hourMillis + minute * minuteMillis

def day (w : Wall) : Int := w / dayMillis

def date (w : Wall) : Date := Date.ofDay (day w)

def millisOfDay (w : Wall) : Nat := (w % dayMillis).toNat

def hour (w : Wall) : Nat := millisOfDay w / 3600000

def minute (w : Wall) : Nat := millisOfDay w / 60000 % 60

def second (w : Wall) : Nat := millisOfDay w / 1000 % 60

def millis (w : Wall) : Nat := millisOfDay w % 1000

/-- The wall time as many days later, or earlier when negative; none out of range. -/
def addDays? (w : Wall) (days : Int) : Option Wall :=
  let moved := w + days * dayMillis
  if inRange moved then some moved else none

/-- The same time of day as many months later, or earlier when negative; the day is the last of
its month where the month is too short. There is none out of range, nor beyond 2147483647
months. -/
def addMonths? (w : Wall) (months : Int) : Option Wall :=
  if months.natAbs ≤ 2147483647 then
    let moved := (date w |>.addMonths months).toDay * dayMillis + millisOfDay w
    if inRange moved then some moved else none
  else none

/-! ### Text -/

def timeChars (w : Wall) : List Char :=
  Text.padded 2 (hour w) ++ ':' :: Text.padded 2 (minute w)

def dateText (w : Wall) : String := String.ofList (date w).chars

/-- Date, hour and minute, for instance `2015-04-26T18:15`. -/
def minuteText (w : Wall) : String := String.ofList ((date w).chars ++ 'T' :: timeChars w)

/-- Date and time to the second, and to the millisecond where there are any. -/
def fullText (w : Wall) : String :=
  let fraction := if millis w = 0 then [] else '.' :: Text.padded 3 (millis w)
  String.ofList
    ((date w).chars ++ ' ' :: (timeChars w ++ ':' :: (Text.padded 2 (second w) ++ fraction)))

end Wall

end MetricSeries.Time
