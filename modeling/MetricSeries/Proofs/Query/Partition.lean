import Mathlib.Order.Bounds.Defs
import MetricSeries.Proofs.Query.Layout
import MetricSeries.Query.Accumulator

/-!
# The buckets of a window are as narrow as the limit allows

A window of `m` minutes is cut into buckets of `w` minutes, where `w` is the quotient of `m` by the
limit on points, rounded up. Both roundings of the layout are settled by the Galois connection of
division and multiplication:

* `widthFor_le_iff` — a width of `v` minutes is enough exactly when `m ≤ v * maxPoints`, so that `w`
  is the least width with which the minutes fit;
* `natCast_count_ofWindow` — the number of buckets is one more than the index of the last instant,
  so that every bucket starts within the window, and there are no more buckets than points.

`Buckets.Partition` collects what a layout must satisfy, and `Accumulator.new_partition` says that
the accumulator of every window that is not empty has such a layout.

The limit is read as a signed number of 64 bits, which is why it is bounded here: from two to the
power of 63 on it would be negative.
-/

namespace MetricSeries

open Time

namespace Buckets

/-- **A partition of a window** into at most `maxPoints` buckets, none of them wider than needed. -/
structure Partition (b : Buckets) (first last : Instant) (maxPoints : Nat) : Prop where
  count : 1 ≤ b.count ∧ b.count ≤ maxPoints
  /-- The width is a whole number of minutes, and the least one with which the minutes of the
  window fit the buckets. -/
  width : ∃ w : Int, b.width = w * minuteMillis ∧
    IsLeast {v : Int | 1 ≤ v ∧ minutes first last ≤ v * maxPoints} w
  starts_length : b.starts.length = b.count
  /-- The starts that are listed are those of the buckets, in their order. -/
  starts_get : ∀ i < b.count, b.starts[i]? = some (b.start i)
  start_mem : ∀ t ∈ b.starts, first ≤ t ∧ t ≤ last
  start_succ : ∀ i, b.start (i + 1) = b.start i + b.width
  /-- Every instant of the window is in the span of exactly one bucket. -/
  existsUnique : ∀ t, first ≤ t → t ≤ last → ∃! i, b.start i ≤ t ∧ t < b.start i + b.width
  /-- The bucket of an instant is the one whose span it is in, and only instants of the window have
  one. -/
  indexOf : ∀ t i, b.indexOf? t = some i ↔
    (first ≤ t ∧ t ≤ last) ∧ b.start i ≤ t ∧ t < b.start i + b.width

variable {first last : Instant} {maxPoints : Nat}

/-! ### The width -/

/-- The limits on points that a signed number of 64 bits can express are read as they are. -/
theorem bmod_limit (hpos : 1 ≤ maxPoints) (hmax : maxPoints ≤ 4611686018427387904) :
    (max maxPoints 1 : Int).bmod UInt64.size = maxPoints := by
  rw [Int.max_eq_left (by omega)]
  have hsize : (UInt64.size : Int) = 18446744073709551616 := rfl
  exact Int.bmod_eq_of_le (by omega) (by omega)

/-- **A width is enough** when the minutes fit the limit on points with it. -/
theorem widthFor_le_iff {m v : Int} (hm : 1 ≤ m) (hpos : 1 ≤ maxPoints)
    (hmax : maxPoints ≤ 4611686018427387904) :
    widthFor m maxPoints ≤ v ↔ 1 ≤ v ∧ m ≤ v * maxPoints := by
  unfold widthFor
  dsimp only
  rw [bmod_limit hpos hmax, Int.tdiv_eq_ediv_of_nonneg (by omega), Int.max_le]
  refine and_congr_right fun _ => ?_
  rw [Int.ediv_le_iff_le_mul (by omega)]
  omega

theorem one_le_minutes (hwindow : first ≤ last) : 1 ≤ minutes first last := by
  have hlength : 0 ≤ (last - first) / minuteMillis :=
    Int.ediv_nonneg (Int.sub_nonneg.mpr hwindow) (by decide)
  unfold minutes
  exact Int.le_add_of_nonneg_left hlength

theorem isLeast_widthFor (hwindow : first ≤ last) (hpos : 1 ≤ maxPoints)
    (hmax : maxPoints ≤ 4611686018427387904) :
    IsLeast {v : Int | 1 ≤ v ∧ minutes first last ≤ v * maxPoints}
      (widthFor (minutes first last) maxPoints) := by
  have hm := one_le_minutes hwindow
  refine ⟨(widthFor_le_iff hm hpos hmax).mp (Int.le_refl _), ?_⟩
  intro v hv
  exact (widthFor_le_iff hm hpos hmax).mpr hv

/-! ### The number of buckets -/

/-- A bucket starts within the window when there is such a bucket. -/
theorem start_le_iff (hwindow : first ≤ last) (i : Nat) :
    (ofWindow first last maxPoints).start i ≤ last ↔ i < (ofWindow first last maxPoints).count := by
  have hcount := natCast_count_ofWindow maxPoints hwindow
  -- Both sides compare the index with that of the last instant.
  have hstart : (ofWindow first last maxPoints).start i ≤ last ↔
      (i : Int) * (ofWindow first last maxPoints).width ≤ last - first := by
    unfold start
    rw [ofWindow_first]
    unfold Instant at *
    omega
  rw [hstart, ← Int.le_ediv_iff_mul_le ofWindow_width_pos]
  unfold Instant at *
  omega

/-- The minutes fit the limit, so the buckets do. -/
theorem count_ofWindow_le (hwindow : first ≤ last) (hpos : 1 ≤ maxPoints)
    (hmax : maxPoints ≤ 4611686018427387904) :
    (ofWindow first last maxPoints).count ≤ maxPoints := by
  have hw := one_le_widthFor (minutes first last) maxPoints
  have hcount := natCast_count_ofWindow maxPoints hwindow
  obtain ⟨⟨-, hfits⟩, -⟩ := isLeast_widthFor hwindow hpos hmax
  -- The index of the last instant is less than the limit, since the minutes before it are fewer
  -- than those of the window.
  have hlast : (last - first) / minuteMillis / widthFor (minutes first last) maxPoints <
      maxPoints := by
    have hlength : (last - first) / minuteMillis < minutes first last := Int.lt_succ _
    rw [Int.ediv_lt_iff_lt_mul (by omega), Int.mul_comm]
    exact Int.lt_of_lt_of_le hlength hfits
  rw [div_width_eq] at hcount
  unfold Instant at *
  omega

/-! ### The layout -/

theorem mem_starts_iff {b : Buckets} {t : Instant} :
    t ∈ b.starts ↔ ∃ i < b.count, b.start i = t := by
  unfold starts
  simp

theorem ofWindow_partition (hwindow : first ≤ last) (hpos : 1 ≤ maxPoints)
    (hmax : maxPoints ≤ 4611686018427387904) :
    (ofWindow first last maxPoints).Partition first last maxPoints := by
  constructor
  case count =>
    refine ⟨?_, count_ofWindow_le hwindow hpos hmax⟩
    have hfirst : (ofWindow first last maxPoints).start 0 ≤ last := by
      simpa [start] using hwindow
    exact (start_le_iff hwindow 0).mp hfirst
  case width => exact ⟨_, rfl, isLeast_widthFor hwindow hpos hmax⟩
  case starts_length => simp [starts]
  case starts_get =>
    intro i hi
    unfold starts
    rw [List.getElem?_map, List.getElem?_range hi, Option.map_some]
  case start_mem =>
    intro t ht
    obtain ⟨i, hi, rfl⟩ := mem_starts_iff.mp ht
    have hnonneg : 0 ≤ (i : Int) * (ofWindow first last maxPoints).width :=
      Int.mul_nonneg (Int.natCast_nonneg i) (Int.le_of_lt ofWindow_width_pos)
    exact ⟨Int.le_add_of_nonneg_right hnonneg, (start_le_iff hwindow i).mpr hi⟩
  case start_succ =>
    intro i
    unfold start
    rw [Int.natCast_succ, Int.add_mul, Int.one_mul, ← Int.add_assoc]
  case existsUnique =>
    intro t hfirst hlast
    -- The index is unique among all natural numbers, not only among those of buckets.
    obtain ⟨i, ⟨-, hi⟩, -⟩ := Buckets.existsUnique_spans hfirst hlast
    refine ⟨i, hi, ?_⟩
    intro j hj
    have hdiv := (spans_iff_div_eq ofWindow_width_pos).mp hi
    rw [(spans_iff_div_eq ofWindow_width_pos).mp hj] at hdiv
    exact Int.ofNat_inj.mp hdiv
  case indexOf =>
    intro t i
    exact indexOf?_ofWindow_eq_some_iff

end Buckets

namespace Accumulator

/-- **The buckets of an accumulator partition the window**, for every window that is not empty and
every limit on points from one up to two to the power of 62. -/
theorem new_partition (first last : Span) (maxPoints : Nat) (hwindow : first.first ≤ last.last)
    (hpos : 1 ≤ maxPoints) (hmax : maxPoints ≤ 4611686018427387904) :
    ∃ a, Accumulator.new first last maxPoints = .ok a ∧
      a.buckets.Partition first.first last.last maxPoints := by
  refine ⟨{ buckets := .ofWindow first.first last.last maxPoints }, ?_, ?_⟩
  · unfold Accumulator.new
    exact if_neg (Int.not_lt.mpr hwindow)
  · exact Buckets.ofWindow_partition hwindow hpos hmax

/-- Ten minutes in at most six buckets: they are two minutes wide, and there are five of them, which
start one after the other. -/
theorem new_partition_ten_minutes :
    ∃ a, Accumulator.new ⟨none, "1970-01-01T00:00", 0, 59999, .minute⟩
        ⟨none, "1970-01-01T00:09", 540000, 599999, .minute⟩ 6 = .ok a ∧
      a.buckets = ⟨0, 599999, 120000, 5⟩ ∧ a.buckets.Partition 0 599999 6 ∧
      a.buckets.starts = [0, 120000, 240000, 360000, 480000] := by
  obtain ⟨a, ha, hpartition⟩ := new_partition ⟨none, "1970-01-01T00:00", 0, 59999, .minute⟩
    ⟨none, "1970-01-01T00:09", 540000, 599999, .minute⟩ 6 (by decide) (by decide) (by decide)
  -- Ten minutes in at most six points: five points of two minutes.
  have hbuckets : a.buckets = ⟨0, 599999, 120000, 5⟩ := by
    obtain rfl := Except.ok.inj ha
    decide
  refine ⟨a, ha, hbuckets, hpartition, ?_⟩
  rw [hbuckets]
  decide

end Accumulator

end MetricSeries
