import MetricSeries.Proofs.Query.Slots
import MetricSeries.Query.InPlace

/-!
# What a row changes in an accumulator

An accumulator is two things: its layout, which rows do not touch (`Accumulator.layout`), and an
aggregator for every series and bucket (`Accumulator.aggregatorAt?`), where a bucket that no row has
reached stands for a new one. What becomes of a row is said once, by `Accumulator.Takes`. In this
view the row does one thing only: it is fed to the aggregator of its series and of the bucket that
it is dated into (`Takes.aggregatorAt?_eq`). That this aggregator may be started before the row is
read cannot be seen.

So an aggregator has been fed the rows of its own series and bucket and no others, in their order,
whatever rows have come between them (`aggregatorAt?_accumulateAllInPlace`).

`Accumulator.Reachable` are the accumulators that calls lead to, with all the rows that were errors
on the way. Their buckets are those of a window, and in every bucket stands an aggregator of the
series' own aggregation. That settles which rows are errors (`Reachable.exists_ok_iff`).
-/

namespace MetricSeries

open Fallible Time

variable {row row' : Row} {b : Buckets} {timeColumn : String} {i j k l : Nat}
  {calls calls' : List (Nat × Row)}

theorem Row.contains_of_bucket? (h : row.bucket? b timeColumn = some i) :
    row.contains timeColumn := by
  obtain ⟨t, ht, -⟩ := Option.bind_eq_some_iff.mp h
  exact contains_of_integer? ht

/-! ### Slots -/

namespace SeriesSlot

variable {s : SeriesSlot}

/-- The slot without its aggregators. -/
def emptied (s : SeriesSlot) : SeriesSlot := { s with filled := .empty }

/-- Feeding yields the slot that is left behind, or the error. -/
theorem feed_eq_feedInPlace (s : SeriesSlot) (i : Nat) (row : Row) :
    s.feed i row = (s.feedInPlace i row).1.map fun _ => (s.feedInPlace i row).2 := by
  change ((s.aggregatorAt i).feed row >>= fun g => .ok { s with filled := s.filled.insert i g }) =
    ((s.aggregatorAt i).feedInPlace row).1.map fun _ => (s.feedInPlace i row).2
  rw [Aggregator.feed_eq_feedInPlace]
  cases ((s.aggregatorAt i).feedInPlace row).1 <;> rfl

theorem outcome_feedInPlace (s : SeriesSlot) (i : Nat) (row : Row) :
    (s.feedInPlace i row).1 = ((s.aggregatorAt i).feedInPlace row).1 := rfl

@[simp] theorem emptied_feedInPlace (s : SeriesSlot) (i : Nat) (row : Row) :
    (s.feedInPlace i row).2.emptied = s.emptied := rfl

/-- **A row reaches one bucket.** -/
theorem aggregatorAt_feedInPlace (s : SeriesSlot) (i : Nat) (row : Row) (j : Nat) :
    (s.feedInPlace i row).2.aggregatorAt j =
      if j = i then ((s.aggregatorAt j).feedInPlace row).2 else s.aggregatorAt j := by
  unfold feedInPlace
  by_cases hj : j = i
  · subst hj
    rw [if_pos rfl]
    unfold aggregatorAt
    simp
  · rw [if_neg hj]
    unfold aggregatorAt
    simp only [SortedMap.get?_insert_of_ne _ hj]

end SeriesSlot

namespace Accumulator

variable {a a' : Accumulator} {s : SeriesSlot}

/-! ### One row -/

/-- What rows do not touch: the buckets, the time column, and the series without their
aggregators. -/
def layout (a : Accumulator) : Accumulator := { a with slots := a.slots.map SeriesSlot.emptied }

theorem buckets_eq_of_layout_eq (h : a.layout = a'.layout) : a.buckets = a'.buckets := by
  change a.layout.buckets = a'.layout.buckets
  rw [h]

theorem timeColumn_eq_of_layout_eq (h : a.layout = a'.layout) : a.timeColumn = a'.timeColumn := by
  change a.layout.timeColumn = a'.layout.timeColumn
  rw [h]

theorem getElem?_eq_of_layout_eq (h : a.layout = a'.layout) (k : Nat) :
    a.slots[k]?.map SeriesSlot.emptied = a'.slots[k]?.map SeriesSlot.emptied := by
  rw [← List.getElem?_map, ← List.getElem?_map]
  change a.layout.slots[k]? = a'.layout.slots[k]?
  rw [h]

/-- The aggregator of a series and a bucket; none when there is no such series. -/
def aggregatorAt? (a : Accumulator) (series bucket : Nat) : Option Aggregator :=
  a.slots[series]?.map (·.aggregatorAt bucket)

/-- The bucket of the accumulator that a row is dated into. -/
def bucketOf? (a : Accumulator) (row : Row) : Option Nat := row.bucket? a.buckets a.timeColumn

theorem bucketOf?_eq_of_layout_eq (h : a.layout = a'.layout) (row : Row) :
    a.bucketOf? row = a'.bucketOf? row := by
  unfold bucketOf?
  rw [buckets_eq_of_layout_eq h, timeColumn_eq_of_layout_eq h]

/-- **What becomes of a row** for a series, and the accumulator that it leaves behind. -/
inductive Takes (a : Accumulator) (k : Nat) (row : Row) :
    Except Error Bool → Accumulator → Prop where
  /-- A row must have a time column. -/
  | undated (missing : ¬ row.contains a.timeColumn) :
      Takes a k row (.error (.missingColumn a.timeColumn)) a
  /-- A row without a time, or with one outside the window, is passed over, also if there is no such
  series. -/
  | outside (dated : row.contains a.timeColumn) (bucket : a.bucketOf? row = none) :
      Takes a k row (.ok false) a
  | noSeries {i : Nat} (bucket : a.bucketOf? row = some i) (slot : a.slots[k]? = none) :
      Takes a k row (.error (.noSeries k)) a
  /-- The row is fed to its bucket, which may fail. -/
  | fed {i : Nat} {s : SeriesSlot} (bucket : a.bucketOf? row = some i)
      (slot : a.slots[k]? = some s) :
      Takes a k row ((s.feedInPlace i row).1.map fun _ => true)
        { a with slots := a.slots.set k (s.feedInPlace i row).2 }

theorem takes (a : Accumulator) (k : Nat) (row : Row) :
    a.Takes k row (a.accumulateInPlace k row).1 (a.accumulateInPlace k row).2 := by
  unfold accumulateInPlace
  -- The time decides first, then the bucket, then the series; each that is missing is a rule of its
  -- own.
  by_cases hcontains : row.contains a.timeColumn
  · simp only [Row.long_of_contains hcontains]
    cases hbucket : (row.integer? a.timeColumn).bind fun t => a.buckets.indexOf? t.toInt with
    | none => exact .outside hcontains hbucket
    | some i =>
      dsimp only
      cases hslot : a.slots[k]? with
      | none => exact .noSeries hbucket hslot
      | some s => exact .fed hbucket hslot
  · simp only [Row.long_of_not_contains hcontains]
    exact .undated hcontains

/-- **Accumulating yields the accumulator that is left behind**, or the error. -/
theorem accumulate_eq_accumulateInPlace (a : Accumulator) (k : Nat) (row : Row) :
    a.accumulate k row =
      (a.accumulateInPlace k row).1.map fun used => ((a.accumulateInPlace k row).2, used) := by
  unfold accumulate accumulateInPlace
  -- Both readings of the code branch at the same places, and agree in each branch.
  cases row.long a.timeColumn with
  | error e => rfl
  | ok time =>
    simp only [ok_bind]
    cases time.bind fun t => a.buckets.indexOf? t.toInt with
    | none => rfl
    | some i =>
      dsimp only
      cases a.slots[k]? with
      | none => rfl
      | some s =>
        dsimp only
        rw [SeriesSlot.feed_eq_feedInPlace]
        cases (s.feedInPlace i row).1 <;> rfl

theorem accumulate_eq_ok_iff {used : Bool} :
    a.accumulate k row = .ok (a', used) ↔ a.accumulateInPlace k row = (.ok used, a') := by
  rw [accumulate_eq_accumulateInPlace]
  generalize a.accumulateInPlace k row = left
  obtain ⟨outcome, left⟩ := left
  cases outcome with
  | error e => simp [Except.map]
  | ok u => simp [Except.map, and_comm]

namespace Takes

variable {outcome : Except Error Bool} (h : a.Takes k row outcome a')
include h

/-- **Rows do not touch the layout.** -/
theorem layout_eq : a'.layout = a.layout := by
  cases h with
  | undated | outside | noSeries => rfl
  | @fed i s bucket slot =>
    -- The slot differs in its aggregators at most, which the layout does not have.
    have hslots : (a.slots.set k (s.feedInPlace i row).2).map SeriesSlot.emptied =
        a.slots.map SeriesSlot.emptied := by
      refine List.ext_getElem? fun l => ?_
      rw [List.getElem?_map, List.getElem?_map, List.getElem?_set']
      by_cases hl : k = l
      · subst hl
        rw [if_pos rfl, slot]
        exact congrArg some (SeriesSlot.emptied_feedInPlace s i row)
      · rw [if_neg hl]
    unfold layout
    rw [hslots]

/-- **A row reaches one aggregator**: the one of its series and of the bucket that it is dated
into. -/
theorem aggregatorAt?_eq (l j : Nat) :
    a'.aggregatorAt? l j =
      if k = l ∧ a.bucketOf? row = some j then
        (a.aggregatorAt? l j).map fun g => (g.feedInPlace row).2
      else a.aggregatorAt? l j := by
  -- Only a row that is fed changes anything, in the slot of its series and there in the one bucket.
  cases h with
  | undated missing =>
    rw [if_neg]
    rintro ⟨-, hbucket⟩
    exact missing (Row.contains_of_bucket? hbucket)
  | outside dated bucket => simp [bucket]
  | noSeries bucket slot =>
    by_cases hl : k = l
    · subst hl
      simp [aggregatorAt?, slot]
    · simp [hl]
  | @fed i s bucket slot =>
    unfold aggregatorAt?
    rw [List.getElem?_set']
    by_cases hl : k = l
    · subst hl
      rw [if_pos rfl, slot, bucket]
      change some ((s.feedInPlace i row).2.aggregatorAt j) = _
      rw [SeriesSlot.aggregatorAt_feedInPlace]
      by_cases hj : j = i
      · subst hj
        simp
      · simp [hj, Ne.symm hj]
    · simp [hl]

end Takes

/-! ### A run of rows -/

/-- The rows for a series that are dated into a bucket, in the order of the calls. -/
def rowsFor (a : Accumulator) (calls : List (Nat × Row)) (series bucket : Nat) : List Row :=
  (calls.filter fun c => c.1 = series ∧ a.bucketOf? c.2 = some bucket).map (·.2)

theorem rowsFor_eq_of_layout_eq (h : a.layout = a'.layout) (calls : List (Nat × Row)) (k i : Nat) :
    a.rowsFor calls k i = a'.rowsFor calls k i := by
  unfold rowsFor
  simp only [bucketOf?_eq_of_layout_eq h]

theorem accumulateAllInPlace_cons (a : Accumulator) (c : Nat × Row) (calls : List (Nat × Row)) :
    a.accumulateAllInPlace (c :: calls) =
      (a.accumulateInPlace c.1 c.2).2.accumulateAllInPlace calls := rfl

theorem layout_accumulateAllInPlace (a : Accumulator) (calls : List (Nat × Row)) :
    (a.accumulateAllInPlace calls).layout = a.layout := by
  induction calls generalizing a with
  | nil => rfl
  | cons c calls ih => rw [accumulateAllInPlace_cons, ih, (a.takes c.1 c.2).layout_eq]

/-- **An aggregator is fed the rows of its series and bucket**, in the order in which they come, and
no others. -/
theorem aggregatorAt?_accumulateAllInPlace (a : Accumulator) (calls : List (Nat × Row))
    (k i : Nat) :
    (a.accumulateAllInPlace calls).aggregatorAt? k i =
      (a.aggregatorAt? k i).map (·.feedAllInPlace (a.rowsFor calls k i)) := by
  induction calls generalizing a with
  | nil => exact Option.map_id'.symm
  | cons c calls ih =>
    -- The other rows are dated as before, since the first one leaves the layout alone.
    have htakes := a.takes c.1 c.2
    rw [accumulateAllInPlace_cons, ih, htakes.aggregatorAt?_eq,
      rowsFor_eq_of_layout_eq htakes.layout_eq]
    unfold rowsFor
    rw [List.filter_cons]
    by_cases hc : c.1 = k ∧ a.bucketOf? c.2 = some i
    · rw [if_pos hc, if_pos (decide_eq_true hc), Option.map_map]
      rfl
    · rw [if_neg hc, if_neg (by simpa using hc)]

/-- **A run without errors** leads to the accumulator that its rows leave behind. -/
theorem eq_accumulateAllInPlace {rows : List Row} (h : a.accumulateAll k rows = .ok a') :
    a' = a.accumulateAllInPlace (rows.map fun row => (k, row)) := by
  unfold accumulateAll at h
  induction rows generalizing a with
  | nil => exact (Except.ok.inj h).symm
  | cons row rows ih =>
    rw [List.foldlM_cons] at h
    -- The first row is taken without failing, so in place it leaves the same state.
    obtain ⟨b, hb, hrest⟩ := bind_eq_ok_iff.mp h
    obtain ⟨⟨b', used⟩, hused, hb⟩ := bind_eq_ok_iff.mp hb
    obtain rfl : b' = b := Except.ok.inj hb
    rw [List.map_cons, accumulateAllInPlace_cons, accumulate_eq_ok_iff.mp hused]
    exact ih hrest

/-! ### Accumulators that calls lead to -/

/-- **The accumulators that calls lead to.** A row that is an error counts as a call, too, and the
calls that follow find what it has left behind. -/
inductive Reachable : Accumulator → Prop where
  | new {first last : Span} {maxPoints : Nat} {a : Accumulator}
      (ok : Accumulator.new first last maxPoints = .ok a) : Reachable a
  | withTimeColumn {a : Accumulator} (h : Reachable a) (column : String) :
      Reachable (a.withTimeColumn column)
  | addSeries {a : Accumulator} (h : Reachable a) (name : String) (field : SeriesField)
      (systems : List SystemId) : Reachable (a.addSeries name field systems).1
  | accumulate {a : Accumulator} (h : Reachable a) (k : Nat) (row : Row) :
      Reachable (a.accumulateInPlace k row).2

namespace Reachable

variable (h : a.Reachable)
include h

theorem accumulateAllInPlace (calls : List (Nat × Row)) :
    (a.accumulateAllInPlace calls).Reachable := by
  induction calls generalizing a with
  | nil => exact h
  | cons c calls ih => exact ih (h.accumulate c.1 c.2)

theorem of_accumulateAll {rows : List Row} (hrows : a.accumulateAll k rows = .ok a') :
    a'.Reachable := by
  rw [eq_accumulateAllInPlace hrows]
  exact h.accumulateAllInPlace _

theorem exists_ofWindow : ∃ first last maxPoints, a.buckets = .ofWindow first last maxPoints := by
  -- By induction on how the accumulator has come about: nothing after its making touches the
  -- buckets.
  induction h with
  | @new first last maxPoints a ok =>
    unfold Accumulator.new at ok
    split at ok
    · cases ok
    · obtain rfl := Except.ok.inj ok
      exact ⟨_, _, _, rfl⟩
  | withTimeColumn h column ih => exact ih
  | addSeries h name field systems ih => exact ih
  | @accumulate a h k row ih =>
    rw [buckets_eq_of_layout_eq (a.takes k row).layout_eq]
    exact ih

/-- The bucket that a row is dated into is the one whose span holds its time. -/
theorem exists_spans (hi : a.bucketOf? row = some i) :
    ∃ t, row.integer? a.timeColumn = some t ∧ a.buckets.Spans i t.toInt := by
  obtain ⟨t, ht, hindex⟩ := Option.bind_eq_some_iff.mp hi
  obtain ⟨first, last, maxPoints, hwindow⟩ := h.exists_ofWindow
  rw [hwindow] at hindex ⊢
  exact ⟨t, ht, (Buckets.indexOf?_ofWindow_eq_some_iff.mp hindex).2⟩

/-- **In every bucket stands an aggregator of the series' own aggregation.** -/
theorem aggregation_aggregatorAt (hs : s ∈ a.slots) (i : Nat) :
    (s.aggregatorAt i).aggregation = s.field.aggregation := by
  induction h generalizing s with
  | @new first last maxPoints a ok =>
    unfold Accumulator.new at ok
    split at ok
    · cases ok
    · obtain rfl := Except.ok.inj ok
      exact absurd hs List.not_mem_nil
  | withTimeColumn h column ih => exact ih hs
  | addSeries h name field systems ih =>
    obtain hs | hs := List.mem_append.mp hs
    · exact ih hs
    · obtain rfl := List.mem_singleton.mp hs
      rfl
  | @accumulate a h k row ih =>
    have htakes := a.takes k row
    generalize (a.accumulateInPlace k row).1 = outcome at htakes
    generalize (a.accumulateInPlace k row).2 = a' at htakes hs
    cases htakes with
    | undated | outside | noSeries => exact ih hs
    | @fed j s' bucket slot =>
      have hs' := ih (List.mem_of_getElem? slot)
      obtain hs | rfl := List.mem_or_eq_of_mem_set hs
      · exact ih hs
      · -- What is fed keeps its aggregation, and so does what is not.
        rw [SeriesSlot.aggregatorAt_feedInPlace]
        split
        · exact (Aggregator.aggregation_feedInPlace _ _).trans hs'
        · exact hs'

/-- **Rows that are not errors**: they have a time column, and those that are dated into a bucket
are for a series and carry the columns of its aggregation. -/
theorem exists_ok_iff : (∃ used, (a.accumulateInPlace k row).1 = .ok used) ↔
    row.contains a.timeColumn ∧ ((a.bucketOf? row).isSome →
      ∃ s, a.slots[k]? = some s ∧ ∀ c ∈ s.field.aggregation.columns, row.contains c) := by
  have htakes := a.takes k row
  generalize (a.accumulateInPlace k row).1 = outcome at htakes ⊢
  generalize (a.accumulateInPlace k row).2 = a' at htakes
  cases htakes with
  | undated missing => simp [missing]
  | outside dated bucket => simp [dated, bucket]
  | noSeries bucket slot => simp [bucket, slot]
  | @fed i s bucket slot =>
    -- Whether the row can be fed is a matter of the aggregation, which is the one of the series.
    have hcolumns := Aggregator.exists_feed_iff (s.aggregatorAt i) row
    rw [h.aggregation_aggregatorAt (List.mem_of_getElem? slot)] at hcolumns
    simp only [bucket, slot, Row.contains_of_bucket? bucket, Option.some.injEq, exists_eq_left',
      Option.isSome_some, true_implies, true_and]
    rw [← hcolumns, Aggregator.feed_eq_feedInPlace, SeriesSlot.outcome_feedInPlace]
    cases ((s.aggregatorAt i).feedInPlace row).1 <;> simp [Except.map]

/-- **Rows that agree on the columns that are read** are the same to an accumulator. -/
theorem accumulateInPlace_congr (htime : row'.get? a.timeColumn = row.get? a.timeColumn)
    (hcolumns : ∀ s, a.slots[k]? = some s → row.AgreesOn s.field.aggregation.columns row') :
    a.accumulateInPlace k row' = a.accumulateInPlace k row := by
  have hlong : row'.long a.timeColumn = row.long a.timeColumn := by
    unfold Row.long Row.value
    rw [htime]
  have hfeed : ∀ s i, a.slots[k]? = some s → s.feedInPlace i row' = s.feedInPlace i row := by
    intro s i hs
    have hagree := hcolumns s hs
    rw [← h.aggregation_aggregatorAt (List.mem_of_getElem? hs) i] at hagree
    unfold SeriesSlot.feedInPlace
    rw [Aggregator.feedInPlace_congr hagree]
  -- The rows are dated alike, so that they go to one bucket, if to any.
  unfold Accumulator.accumulateInPlace
  rw [hlong]
  cases hs : a.slots[k]? with
  | none => rfl
  | some s => simp only [hfeed s _ hs]

end Reachable

end Accumulator

end MetricSeries
