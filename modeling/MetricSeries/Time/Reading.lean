import MetricSeries.Time.Wall

/-!
# What a date or time text says

The start and the end of a query are texts of one of four forms:

    now        now-90        NOW+2h           the clock, with an offset in minutes or hours
    9:30       18:15                          a time of today
    2015-04-26                                a day
    2015-04-26T9:30                           a minute

`Reading.ofChars?` recognises the form of a text that has no blank space around it. No clock is
looked at: whether a reading names a point in time in some zone is decided later.
-/

namespace MetricSeries.Time

structure TimeOfDay where
  hour : Nat
  minute : Nat
  deriving DecidableEq, Repr

/-- What a text says, before a clock is looked at. -/
inductive Reading where
  /-- The clock, so many milliseconds later, or earlier when negative. -/
  | now (offset : Int)
  /-- A time of today. -/
  | time (t : TimeOfDay)
  | date (d : Date)
  | dateTime (d : Date) (t : TimeOfDay)
  deriving DecidableEq, Repr

/-- A time of day: one or two digits for the hour, a colon, two digits for the minute. -/
def TimeOfDay.ofChars? (cs : List Char) : Option TimeOfDay := do
  let (h, m) ← match cs with
    | [h, ':', m₁, m₂] => some ([h], [m₁, m₂])
    | [h₁, h₂, ':', m₁, m₂] => some ([h₁, h₂], [m₁, m₂])
    | _ => none
  let hour ← Text.readNat? h
  let minute ← Text.readNat? m
  if hour ≤ 23 ∧ minute ≤ 59 then some ⟨hour, minute⟩ else none

/-- A date: four digits, two and two, with hyphens between them, which name a day of the
calendar. -/
def Date.ofChars? (cs : List Char) : Option Date :=
  match cs with
  | [y₁, y₂, y₃, y₄, '-', m₁, m₂, '-', d₁, d₂] => do
    let year ← Text.readNat? [y₁, y₂, y₃, y₄]
    let month ← Text.readNat? [m₁, m₂]
    let day ← Text.readNat? [d₁, d₂]
    let date : Date := ⟨year, month, day⟩
    if date.Valid then some date else none
  | _ => none

/-- The offset behind `now`: nothing, or a sign, a numeral of 32 bits and, for hours, an `h` of
either case. -/
def nowOffset? : List Char → Option Int
  | [] => some 0
  | sign :: body =>
    let (digits, unit) := match body.getLast? with
      | some 'h' | some 'H' => (body.dropLast, hourMillis)
      | _ => (body, minuteMillis)
    -- The numeral behind the sign has no sign of its own.
    match (Text.readNat? digits).filter (· < UInt32.size) with
    | none => none
    | some n =>
      if sign = '+' then some (n * unit)
      else if sign = '-' then some (-(n * unit))
      else none

/-- Whether a character is a letter, in either case. -/
def isLetter (lower : Char) (c : Char) : Bool := c = lower || c = lower.toUpper

namespace Reading

def now? : List Char → Option Int
  | n :: o :: w :: rest =>
    if isLetter 'n' n && isLetter 'o' o && isLetter 'w' w then nowOffset? rest else none
  | _ => none

def dateTime? (cs : List Char) : Option Reading :=
  match cs.drop 10 with
  | 'T' :: t => do
    let d ← Date.ofChars? (cs.take 10)
    let t ← TimeOfDay.ofChars? t
    return .dateTime d t
  | _ => none

/-- What a text without blank space around it says. -/
def ofChars? (cs : List Char) : Option Reading :=
  (now? cs).map now <|> (TimeOfDay.ofChars? cs).map time <|> (Date.ofChars? cs).map date <|>
    dateTime? cs

def isRelative : Reading → Bool
  | now _ | time _ => true
  | date _ | dateTime .. => false

end Reading

end MetricSeries.Time
