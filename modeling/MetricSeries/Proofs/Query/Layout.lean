import Mathlib.Data.Int.Basic
import MetricSeries.Query.Buckets

/-!
# Buckets tile the window

A bucket is the half-open span of time from its start to the start of the next one
(`Buckets.Spans`). The last bucket may reach beyond the window, but no instant of the window lies
beyond the last bucket, whatever the limit on points: with `m` minutes and buckets of `w` minutes,
the greatest index `(m - 1) / w` stays below the count, which is `(m - 1) / w + 1`.

So the test of the index against the count in `Buckets.indexOf?` rejects nothing, and the bucket of
an instant is the one whose span it lies in (`indexOf?_ofWindow_eq_some_iff`). In particular every
instant of the window lies in exactly one bucket (`existsUnique_spans`).
-/

namespace MetricSeries

open Time

namespace Buckets

/-- The span of a bucket: from its start up to the start of the next one, exclusive. -/
def Spans (b : Buckets) (i : Nat) (t : Instant) : Prop :=
  b.start i ≤ t ∧ t < b.start i + b.width

instance (b : Buckets) (i : Nat) (t : Instant) : Decidable (b.Spans i t) :=
  inferInstanceAs (Decidable (_ ∧ _))

theorem one_le_widthFor (minutes : Int) (maxPoints : Nat) : 1 ≤ widthFor minutes maxPoints :=
  Int.le_max_left _ _

variable {first last : Instant} {maxPoints : Nat}

@[simp] theorem ofWindow_first : (ofWindow first last maxPoints).first = first := rfl

@[simp] theorem ofWindow_last : (ofWindow first last maxPoints).last = last := rfl

theorem ofWindow_width_pos : 0 < (ofWindow first last maxPoints).width := by
  have hw := one_le_widthFor (minutes first last) maxPoints
  change 0 < widthFor (minutes first last) maxPoints * 60000
  omega

/-- An instant lies in the span of a bucket exactly when the division that numbers the buckets
yields its number. -/
theorem spans_iff_div_eq {b : Buckets} (hw : 0 < b.width) {i : Nat} {t : Instant} :
    b.Spans i t ↔ (t - b.first) / b.width = i := by
  unfold Spans start
  unfold Instant at *
  refine ⟨?_, ?_⟩
  · -- The instant is the start of the bucket and a remainder below the width.
    rintro ⟨hle, hlt⟩
    have hmod : (t - b.first - i * b.width) + b.width * i = t - b.first := by
      rw [Int.mul_comm b.width]
      omega
    exact ((Int.ediv_emod_unique hw).mpr ⟨hmod, by omega, by omega⟩).1
  · intro h
    have hdiv := Int.mul_ediv_add_emod (t - b.first) b.width
    have hnonneg := Int.emod_nonneg (t - b.first) (by omega : b.width ≠ 0)
    have hbelow := Int.emod_lt_of_pos (t - b.first) hw
    rw [h, Int.mul_comm] at hdiv
    omega

/-- The division by the width in milliseconds goes by way of whole minutes. -/
theorem div_width_eq (t : Instant) :
    (t - first) / (ofWindow first last maxPoints).width =
      (t - first) / minuteMillis / widthFor (minutes first last) maxPoints := by
  change (t - first) / (widthFor (minutes first last) maxPoints * minuteMillis) = _
  rw [Int.mul_comm, Int.ediv_ediv_of_nonneg (by decide)]

/-- Rounding up the minutes of the window, which include its last one, adds one to the index of the
last instant. -/
theorem natCast_count_ofWindow (maxPoints : Nat) (hwindow : first ≤ last) :
    ((ofWindow first last maxPoints).count : Int) =
      (last - first) / (ofWindow first last maxPoints).width + 1 := by
  have hw := one_le_widthFor (minutes first last) maxPoints
  rw [div_width_eq]
  change (((minutes first last + widthFor (minutes first last) maxPoints - 1) /
    widthFor (minutes first last) maxPoints).toNat : Int) = _
  -- Rounding up the number of minutes is rounding down what is one width more.
  generalize widthFor (minutes first last) maxPoints = w at hw ⊢
  have hsum : minutes first last + w - 1 = (last - first) / minuteMillis + w * 1 := by
    unfold minutes
    omega
  have hnonneg : 0 ≤ (last - first) / minuteMillis / w :=
    Int.ediv_nonneg (Int.ediv_nonneg (Int.sub_nonneg.mpr hwindow) (by decide)) (by omega)
  rw [hsum, Int.add_mul_ediv_left _ _ (by omega), Int.toNat_of_nonneg (Int.le_add_one hnonneg)]

theorem div_width_nonneg {t : Instant} (hfirst : first ≤ t) :
    0 ≤ (t - first) / (ofWindow first last maxPoints).width :=
  Int.ediv_nonneg (Int.sub_nonneg.mpr hfirst) (Int.le_of_lt ofWindow_width_pos)

/-- **No instant of the window lies beyond the last bucket.** -/
theorem div_lt_count {t : Instant} (hfirst : first ≤ t) (hlast : t ≤ last) :
    ((t - first) / (ofWindow first last maxPoints).width).toNat <
      (ofWindow first last maxPoints).count := by
  have hcount := natCast_count_ofWindow maxPoints (Int.le_trans hfirst hlast)
  have hle : (t - first) / (ofWindow first last maxPoints).width ≤
      (last - first) / (ofWindow first last maxPoints).width :=
    Int.ediv_le_ediv ofWindow_width_pos (Int.sub_le_sub_right hlast first)
  have hnonneg : 0 ≤ (t - first) / (ofWindow first last maxPoints).width := div_width_nonneg hfirst
  unfold Instant at *
  omega

/-- **The bucket of an instant** of the window is the one whose span it lies in; an instant outside
the window has none. -/
theorem indexOf?_ofWindow_eq_some_iff {t : Instant} {i : Nat} :
    (ofWindow first last maxPoints).indexOf? t = some i ↔
      (first ≤ t ∧ t ≤ last) ∧ (ofWindow first last maxPoints).Spans i t := by
  rw [spans_iff_div_eq ofWindow_width_pos]
  unfold indexOf?
  by_cases ht : first ≤ t ∧ t ≤ last
  · have hlt : _ < (ofWindow first last maxPoints).count := div_lt_count ht.1 ht.2
    have hnonneg : 0 ≤ _ / (ofWindow first last maxPoints).width := div_width_nonneg ht.1
    -- Within the window the test of the index against the count passes.
    rw [ofWindow_first, ofWindow_last, if_pos ht]
    change (if _ < _ then some _ else none) = some i ↔ _
    rw [if_pos hlt, Option.some.injEq]
    unfold Instant at *
    omega
  · simp [ht]

/-- Every instant of the window lies in exactly one bucket. -/
theorem existsUnique_spans {t : Instant} (hfirst : first ≤ t) (hlast : t ≤ last) :
    ∃! i, i < (ofWindow first last maxPoints).count ∧
      (ofWindow first last maxPoints).Spans i t := by
  have hnonneg : 0 ≤ (t - first) / (ofWindow first last maxPoints).width :=
    div_width_nonneg hfirst
  -- The index is the number of whole widths between the first instant and `t`.
  refine ⟨_, ⟨div_lt_count hfirst hlast, ?_⟩, fun i hi => ?_⟩
  · rw [spans_iff_div_eq ofWindow_width_pos, ofWindow_first]
    exact (Int.toNat_of_nonneg hnonneg).symm
  · have hdiv := (spans_iff_div_eq ofWindow_width_pos).mp hi.2
    rw [ofWindow_first] at hdiv
    rw [hdiv, Int.toNat_natCast]

end Buckets

end MetricSeries
