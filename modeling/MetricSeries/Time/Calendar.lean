import MetricSeries.Text.Numeral

/-!
# The calendar

Days are counted from 1 January 1970 and may be negative; the calendar is the Gregorian one,
extended to all years. A `Date` is a year, a month and a day of the month. `Date.toDay` numbers a
valid date and `Date.ofDay` finds the date of a day number.

The days before a year come in closed form. The year of a day is found the other way round: a
division by the mean length of a year is off by at most one, and a comparison with the closed form
settles which way.
-/

namespace MetricSeries.Time

/-- A day of the calendar. -/
structure Date where
  year : Int
  /-- From 1 to 12. -/
  month : Nat
  /-- From 1 to the length of the month. -/
  day : Nat
  deriving DecidableEq, Repr

def isLeap (year : Int) : Bool := year % 4 = 0 && (year % 100 ≠ 0 || year % 400 = 0)

/-- The days from 1 January of the year 1 to 1 January of a year. -/
def daysBeforeYear (year : Int) : Int :=
  365 * (year - 1) + (year - 1) / 4 - (year - 1) / 100 + (year - 1) / 400

/-- The days from 1 January of the year 1 to 1 January 1970. -/
def epochDays : Int := 719162

/-- The days of a year before a month. -/
def daysBeforeMonth (leap : Bool) (month : Nat) : Nat :=
  let feb := if leap then 29 else 28
  match month with
  | 0 | 1 => 0
  | 2 => 31
  | 3 => 31 + feb
  | 4 => 62 + feb
  | 5 => 92 + feb
  | 6 => 123 + feb
  | 7 => 153 + feb
  | 8 => 184 + feb
  | 9 => 215 + feb
  | 10 => 245 + feb
  | 11 => 276 + feb
  | _ => 306 + feb

def monthLength (leap : Bool) (month : Nat) : Nat :=
  match month with
  | 2 => if leap then 29 else 28
  | 4 | 6 | 9 | 11 => 30
  | _ => 31

/-- The month of a day of the year, counted from zero. -/
def monthOfYearDay (leap : Bool) (yearDay : Nat) : Nat :=
  let feb := if leap then 29 else 28
  if yearDay < 31 then 1
  else if yearDay < 31 + feb then 2
  else if yearDay < 62 + feb then 3
  else if yearDay < 92 + feb then 4
  else if yearDay < 123 + feb then 5
  else if yearDay < 153 + feb then 6
  else if yearDay < 184 + feb then 7
  else if yearDay < 215 + feb then 8
  else if yearDay < 245 + feb then 9
  else if yearDay < 276 + feb then 10
  else if yearDay < 306 + feb then 11
  else 12

/-- The day number of 1 January of a year. -/
def yearStart (year : Int) : Int := daysBeforeYear year - epochDays

def yearOfDay (day : Int) : Int :=
  let guess := (day + epochDays) * 400 / 146097 + 1
  if day < yearStart guess then guess - 1
  else if yearStart (guess + 1) ≤ day then guess + 1
  else guess

namespace Date

def Valid (d : Date) : Prop :=
  1 ≤ d.month ∧ d.month ≤ 12 ∧ 1 ≤ d.day ∧ d.day ≤ monthLength (isLeap d.year) d.month

instance (d : Date) : Decidable d.Valid := inferInstanceAs (Decidable (_ ∧ _))

def toDay (d : Date) : Int :=
  yearStart d.year + daysBeforeMonth (isLeap d.year) d.month + (d.day - 1)

def ofDay (day : Int) : Date :=
  let year := yearOfDay day
  let leap := isLeap year
  let yearDay := (day - yearStart year).toNat
  let month := monthOfYearDay leap yearDay
  ⟨year, month, yearDay - daysBeforeMonth leap month + 1⟩

/-- The date as many months later, or earlier when negative. A day that the month does not have
becomes its last day. -/
def addMonths (d : Date) (months : Int) : Date :=
  let total := d.year * 12 + (d.month - 1) + months
  let year := total / 12
  let month := (total % 12).toNat + 1
  ⟨year, month, min d.day (monthLength (isLeap year) month)⟩

/-! ### Text -/

/-- A year: four digits from 0 to 9999, otherwise a sign and at least four digits. -/
def yearText (year : Int) : List Char :=
  if 0 ≤ year ∧ year ≤ 9999 then Text.padded 4 year.toNat
  else if year < 0 then '-' :: Text.padded 4 year.natAbs
  else '+' :: Text.padded 4 year.natAbs

def chars (d : Date) : List Char :=
  yearText d.year ++ '-' :: (Text.padded 2 d.month ++ '-' :: Text.padded 2 d.day)

end Date

/-! ### Days of the week -/

/-- The day of the week, from 0 for Sunday to 6 for Saturday. 1 January 1970 was a Thursday. -/
def weekday (day : Int) : Int := (day + 4) % 7

/-- The Sundays of a month that a rule can name. -/
inductive Sunday where
  | first
  | second
  | third
  | last
  deriving DecidableEq, Repr

/-- The day number of the first Sunday on or after a day. -/
def sundayFrom (day : Int) : Int := day + (7 - weekday day) % 7

def Sunday.dayIn (s : Sunday) (year : Int) (month : Nat) : Int :=
  let monthStart := Date.toDay ⟨year, month, 1⟩
  match s with
  | .first => sundayFrom monthStart
  | .second => sundayFrom monthStart + 7
  | .third => sundayFrom monthStart + 14
  | .last =>
    let monthEnd := monthStart + monthLength (isLeap year) month - 1
    monthEnd - weekday monthEnd

end MetricSeries.Time
