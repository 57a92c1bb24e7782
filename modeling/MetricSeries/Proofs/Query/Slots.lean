import MetricSeries.Proofs.Aggregate.Columns
import MetricSeries.Proofs.Query.Layout
import MetricSeries.Query.Accumulator

/-!
# What the slot of a series has gathered

An accumulator sends every row to the slot of its series, and the slot to the aggregator of the
bucket that the row is dated into. Here the slot is looked at alone: `SeriesSlot.take` is what one
row does to it, and `Accumulator.accumulateAll_append_singleton` says that rows for the last series
of an accumulator do just that to its slot and nothing else.

The invariant of a run is `SeriesSlot.Gathers`: in every bucket stands what a fresh aggregator
makes of the rows of that bucket, in the order in which they came. Aggregators are created when
the first row reaches their bucket; until then a bucket stands for an aggregator that has seen no
row, which has no result either (`valueAt_eq`).

Whether a run of rows succeeds does not depend on what has been gathered: every row must have a
time, and the columns of the aggregation if it is dated into a bucket (`exists_takeAll_iff`).
-/

namespace MetricSeries

open Fallible

/-- The bucket that a row is dated into. -/
def Row.bucket? (b : Buckets) (timeColumn : String) (row : Row) : Option Nat :=
  (row.integer? timeColumn).bind fun t => b.indexOf? t.toInt

def rowsIn (b : Buckets) (timeColumn : String) (rows : List Row) (i : Nat) : List Row :=
  rows.filter fun row => row.bucket? b timeColumn = some i

namespace SeriesSlot

/-- The slot after a row, which goes to the bucket that it is dated into. -/
def take (b : Buckets) (timeColumn : String) (s : SeriesSlot) (row : Row) :
    Except Error SeriesSlot := do
  let time ← row.long timeColumn
  match time.bind fun t => b.indexOf? t.toInt with
  | none => return s
  | some i => s.feed i row

def takeAll (b : Buckets) (timeColumn : String) (s : SeriesSlot) (rows : List Row) :
    Except Error SeriesSlot :=
  rows.foldlM (take b timeColumn) s

/-- **What has been gathered.** In every bucket stands what a fresh aggregator makes of the rows of
that bucket; where nothing stands, that is the fresh aggregator itself. -/
def Gathers (s : SeriesSlot) (rowsOf : Nat → List Row) : Prop :=
  ∀ i, (Aggregator.start s.field.aggregation).feedAll (rowsOf i) =
    .ok ((s.filled.get? i).getD (.start s.field.aggregation))

variable {b : Buckets} {timeColumn : String} {s s' : SeriesSlot} {row : Row} {rows : List Row}
  {rowsOf : Nat → List Row}

/-! ### One row -/

theorem feed_eq_ok_iff {i : Nat} :
    s.feed i row = .ok s' ↔
      ∃ a, ((s.filled.get? i).getD (.start s.field.aggregation)).feed row = .ok a ∧
        { s with filled := s.filled.insert i a } = s' := by
  unfold feed
  rw [bind_eq_ok_iff]
  simp only [pure_eq_ok, Except.ok.injEq]

theorem take_eq_ok_iff :
    s.take b timeColumn row = .ok s' ↔ row.contains timeColumn ∧
      match row.bucket? b timeColumn with
      | none => s = s'
      | some i => s.feed i row = .ok s' := by
  unfold take Row.bucket?
  rw [bind_eq_ok_iff]
  simp only [Row.long_eq_ok_iff, and_assoc, exists_and_left, exists_eq_left]
  refine and_congr_right fun _ => ?_
  -- The row feeds a bucket only if it has a time in the window; otherwise it is passed over.
  cases (row.integer? timeColumn).bind fun t => b.indexOf? t.toInt with
  | none => exact ⟨Except.ok.inj, congrArg Except.ok⟩
  | some i => rfl

/-- A row touches the buckets of a slot and nothing else of it. -/
theorem eq_of_take (h : s.take b timeColumn row = .ok s') :
    s' = { s with filled := s'.filled } := by
  obtain ⟨-, h⟩ := take_eq_ok_iff.mp h
  split at h
  · rw [h]
  · obtain ⟨a, -, rfl⟩ := feed_eq_ok_iff.mp h
    rfl

/-- What stands in a bucket is an aggregator of the slot's own aggregation. -/
theorem Gathers.aggregation_eq (h : s.Gathers rowsOf) (i : Nat) :
    ((s.filled.get? i).getD (.start s.field.aggregation)).aggregation = s.field.aggregation :=
  Aggregator.aggregation_of_feedAll (h i)

/-- A row that goes to a bucket is the last of the rows of that bucket. -/
theorem Gathers.feed {i : Nat} (h : s.Gathers rowsOf) (hs : s.feed i row = .ok s') :
    s'.Gathers (Function.update rowsOf i (rowsOf i ++ [row])) := by
  obtain ⟨a, ha, rfl⟩ := feed_eq_ok_iff.mp hs
  intro j
  by_cases hj : j = i
  · -- The bucket of the row: its aggregator, new or not, is fed one row more.
    subst hj
    simp only [Function.update_self, SortedMap.get?_insert_self, Option.getD_some]
    rw [Aggregator.feedAll_append_singleton, h j]
    exact ha
  · -- Every other bucket keeps its aggregator.
    simp only [Function.update_of_ne hj, SortedMap.get?_insert_of_ne _ hj]
    exact h j

theorem rowsIn_append_singleton (i : Nat) :
    rowsIn b timeColumn (rows ++ [row]) i =
      rowsIn b timeColumn rows i ++ if row.bucket? b timeColumn = some i then [row] else [] := by
  unfold rowsIn
  rw [List.filter_append, List.filter_singleton]
  simp

/-- **One row keeps the invariant.** -/
theorem Gathers.take (h : s.Gathers (rowsIn b timeColumn rows))
    (hs : s.take b timeColumn row = .ok s') : s'.Gathers (rowsIn b timeColumn (rows ++ [row])) := by
  obtain ⟨-, hs⟩ := take_eq_ok_iff.mp hs
  cases hbucket : row.bucket? b timeColumn with
  | none =>
    -- A row without a bucket changes neither the slot nor the rows of any bucket.
    rw [hbucket] at hs
    subst hs
    intro i
    rw [rowsIn_append_singleton, hbucket, if_neg (by simp), List.append_nil]
    exact h i
  | some j =>
    rw [hbucket] at hs
    have hfed := h.feed hs
    intro i
    rw [rowsIn_append_singleton, hbucket]
    by_cases hi : i = j
    · subst hi
      simpa using hfed i
    · rw [if_neg (by simpa [eq_comm] using hi), List.append_nil]
      simpa only [Function.update_of_ne hi] using hfed i

/-- A row is taken exactly when it has a time and, if it is dated into a bucket, the columns of the
aggregation. -/
theorem exists_take_iff (h : s.Gathers rowsOf) :
    (∃ s', s.take b timeColumn row = .ok s') ↔ row.contains timeColumn ∧
      ((row.bucket? b timeColumn).isSome → ∀ c ∈ s.field.aggregation.columns, row.contains c) := by
  simp only [take_eq_ok_iff, exists_and_left]
  refine and_congr_right fun _ => ?_
  cases row.bucket? b timeColumn with
  | none => simp
  | some i =>
    -- What is fed is an aggregator of the slot's aggregation, whatever it has gathered.
    simp only [feed_eq_ok_iff, Option.isSome_some, true_implies]
    have hcolumns := Aggregator.exists_feed_iff
      ((s.filled.get? i).getD (.start s.field.aggregation)) row
    rw [h.aggregation_eq i] at hcolumns
    rw [← hcolumns]
    exact ⟨fun ⟨_, a, ha, _⟩ => ⟨a, ha⟩, fun ⟨a, ha⟩ => ⟨_, a, ha, rfl⟩⟩

/-! ### A run of rows -/

theorem takeAll_cons_eq_ok_iff :
    s.takeAll b timeColumn (row :: rows) = .ok s' ↔
      ∃ s₁, s.take b timeColumn row = .ok s₁ ∧ s₁.takeAll b timeColumn rows = .ok s' := by
  unfold takeAll
  rw [List.foldlM_cons, bind_eq_ok_iff]

theorem eq_of_takeAll (h : s.takeAll b timeColumn rows = .ok s') :
    s' = { s with filled := s'.filled } := by
  induction rows generalizing s with
  | nil =>
    obtain rfl := Except.ok.inj h
    rfl
  | cons row rows ih =>
    obtain ⟨s₁, hs₁, h⟩ := takeAll_cons_eq_ok_iff.mp h
    rw [ih h, eq_of_take hs₁]

/-- **A run of rows keeps the invariant**: what the slot gathers in the end are the rows that it
had gathered before, and behind them those of the run. -/
theorem Gathers.takeAll {before : List Row} (h : s.Gathers (rowsIn b timeColumn before))
    (hs : s.takeAll b timeColumn rows = .ok s') :
    s'.Gathers (rowsIn b timeColumn (before ++ rows)) := by
  induction rows generalizing s before with
  | nil =>
    obtain rfl := Except.ok.inj hs
    rwa [List.append_nil]
  | cons row rows ih =>
    -- After the first row, the rows before the run are one more.
    obtain ⟨s₁, hs₁, hs⟩ := takeAll_cons_eq_ok_iff.mp hs
    have hrest := ih (h.take hs₁) hs
    rwa [List.append_assoc, List.singleton_append] at hrest

theorem exists_takeAll_iff {before : List Row} (h : s.Gathers (rowsIn b timeColumn before)) :
    (∃ s', s.takeAll b timeColumn rows = .ok s') ↔ ∀ row ∈ rows, row.contains timeColumn ∧
      ((row.bucket? b timeColumn).isSome → ∀ c ∈ s.field.aggregation.columns, row.contains c) := by
  induction rows generalizing s before with
  | nil => exact ⟨fun _ => by simp, fun _ => ⟨s, rfl⟩⟩
  | cons row rows ih =>
    simp only [takeAll_cons_eq_ok_iff, List.forall_mem_cons]
    rw [← exists_take_iff h]
    refine ⟨?_, ?_⟩
    · rintro ⟨s', s₁, hs₁, hs'⟩
      -- The condition on the other rows speaks of the aggregation, which the first row keeps.
      have hrest := (ih (h.take hs₁)).mp ⟨s', hs'⟩
      rw [eq_of_take hs₁] at hrest
      exact ⟨⟨s₁, hs₁⟩, hrest⟩
    · rintro ⟨⟨s₁, hs₁⟩, hrest⟩
      have hfield : s₁.field = s.field := by rw [eq_of_take hs₁]
      rw [← hfield] at hrest
      obtain ⟨s', hs'⟩ := (ih (h.take hs₁)).mpr hrest
      exact ⟨s', s₁, hs₁, hs'⟩

/-- A run of rows fails over a column that one of them lacks. -/
theorem exists_eq_of_takeAll_eq_error {e : Error} (h : s.takeAll b timeColumn rows = .error e) :
    ∃ c, e = .missingColumn c := by
  obtain ⟨s', row, -, htake⟩ := exists_of_foldlM_eq_error h
  unfold take at htake
  -- The row that fails lacks the time column or a column of the aggregation.
  rcases bind_eq_error_iff.mp htake with htime | ⟨time, -, htake⟩
  · exact ⟨_, Row.eq_of_long_eq_error htime⟩
  · split at htake
    · cases htake
    · unfold feed at htake
      rcases bind_eq_error_iff.mp htake with hfeed | ⟨a, -, htake⟩
      · exact Aggregator.exists_eq_of_feed_eq_error hfeed
      · cases htake

/-! ### The values of the buckets -/

theorem valueAt_eq (s : SeriesSlot) (precision i : Nat) :
    s.valueAt precision i =
      ((s.filled.get? i).getD (.start s.field.aggregation)).result.map (·.rounded precision) := by
  unfold valueAt
  cases s.filled.get? i with
  | none => simp
  | some a => rfl

/-- Slots of one field that have gathered the same rows have the same values. -/
theorem Gathers.valueAt_eq (h : s.Gathers rowsOf) (h' : s'.Gathers rowsOf)
    (hfield : s'.field = s.field) (precision i : Nat) :
    s'.valueAt precision i = s.valueAt precision i := by
  have hfed := h i
  rw [← hfield, h' i] at hfed
  rw [SeriesSlot.valueAt_eq, SeriesSlot.valueAt_eq, Except.ok.inj hfed, hfield]

end SeriesSlot

/-! ### Rows for the last series of an accumulator -/

namespace Accumulator

variable {a : Accumulator} {slots : List SeriesSlot} {s : SeriesSlot}

theorem accumulate_append_singleton (h : a.slots = slots ++ [s]) (row : Row) :
    ((return (← a.accumulate slots.length row).1) : Except Error Accumulator) =
      (s.take a.buckets a.timeColumn row).map fun s' => { a with slots := slots ++ [s'] } := by
  unfold accumulate SeriesSlot.take
  cases row.long a.timeColumn with
  | error e => rfl
  | ok time =>
    simp only [ok_bind]
    cases time.bind fun t => a.buckets.indexOf? t.toInt with
    | none => cases a; cases h; rfl
    | some i =>
      -- The slot of the last series stands behind all others.
      simp only [h, List.getElem?_append_right (Nat.le_refl _), Nat.sub_self,
        List.getElem?_cons_zero]
      cases s.feed i row with
      | error e => rfl
      | ok s' => simp [Except.map]

/-- Rows for the last series go to its slot and touch nothing else. -/
theorem accumulateAll_append_singleton (h : a.slots = slots ++ [s]) (rows : List Row) :
    a.accumulateAll slots.length rows =
      (s.takeAll a.buckets a.timeColumn rows).map fun s' => { a with slots := slots ++ [s'] } := by
  unfold accumulateAll SeriesSlot.takeAll
  induction rows generalizing a s with
  | nil => cases a; cases h; rfl
  | cons row rows ih =>
    rw [List.foldlM_cons, List.foldlM_cons, accumulate_append_singleton h]
    cases s.take a.buckets a.timeColumn row with
    | error e => rfl
    | ok s' =>
      -- The slot stays the last one, so the rest of the rows go to it as well.
      exact ih (a := { a with slots := slots ++ [s'] }) rfl

end Accumulator

end MetricSeries
