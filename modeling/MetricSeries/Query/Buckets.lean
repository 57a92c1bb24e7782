import MetricSeries.Time.Span

/-!
# Buckets

The window of a query is cut into buckets, one for each point of a series. A bucket is a whole
number of minutes wide, the same for all, and the smallest with which the window's minutes fit the
limit on points. The first bucket starts with the window.
-/

namespace MetricSeries

open Time

/-- A window cut into buckets. -/
structure Buckets where
  first : Instant
  last : Instant
  /-- The width of a bucket in milliseconds. -/
  width : Int
  count : Nat
  deriving DecidableEq, Repr

namespace Buckets

/-- The minutes of a window, a started one included. -/
def minutes (first last : Instant) : Int := (last - first) / minuteMillis + 1

/-- The width in minutes with which `minutes` fit the limit on points. A limit of zero counts as
one; it is read as a signed 64-bit number. -/
def widthFor (minutes : Int) (maxPoints : Nat) : Int :=
  -- From two to the power of 63 on, the limit is negative.
  let limit := (max maxPoints 1 : Int).bmod UInt64.size
  max 1 (Int.tdiv (minutes + limit - 1) limit)

def ofWindow (first last : Instant) (maxPoints : Nat) : Buckets :=
  let minutes := minutes first last
  let width := widthFor minutes maxPoints
  ⟨first, last, width * minuteMillis, ((minutes + width - 1) / width).toNat⟩

def start (b : Buckets) (i : Nat) : Instant := b.first + i * b.width

def starts (b : Buckets) : List Instant := (List.range b.count).map b.start

/-- The bucket that an instant of the window lies in. -/
def indexOf? (b : Buckets) (t : Instant) : Option Nat :=
  if b.first ≤ t ∧ t ≤ b.last then
    let i := ((t - b.first) / b.width).toNat
    if i < b.count then some i else none
  else none

end Buckets

end MetricSeries
