import MetricSeries.Proofs.Query.Changes
import MetricSeries.Proofs.Query.Meaning

/-!
# A row changes one point

The rendering of an accumulator is a matter of its layout and of the aggregators of its series and
buckets (`Accumulator.render_congr`). So what rows do to the rendering is what they do to these: a
row that is fed to a bucket changes the value of one point (`Takes.render_eq_setValue`), and every
other row changes nothing at all (`Takes.render_eq`). That holds as well of a row for which an
aggregator is started in vain. The new aggregator has no result, like the bucket before it.

What many rows make of the points is a matter of the rows of each series and bucket by themselves;
how these are mixed does not show (`render_accumulateAllInPlace`).
-/

namespace MetricSeries

open Fallible Time

variable {row : Row} {i j k : Nat} {precision : Nat}

/-- The series with another value in the point of a bucket. -/
def SeriesResult.setValue (s : SeriesResult) (bucket : Nat) (value : Option Number) :
    SeriesResult :=
  { s with points := s.points.modify bucket fun p => { p with value } }

/-- The result with another value in one point of one series. -/
def QueryResult.setValue (r : QueryResult) (series bucket : Nat) (value : Option Number) :
    QueryResult :=
  { r with series := r.series.modify series (·.setValue bucket value) }

/-! ### Series -/

namespace SeriesSlot

variable {s s' : SeriesSlot}

theorem valueAt_eq_aggregatorAt (s : SeriesSlot) (precision i : Nat) :
    s.valueAt precision i = (s.aggregatorAt i).result.map (·.rounded precision) :=
  s.valueAt_eq precision i

theorem getElem?_points (s : SeriesSlot) (b : Buckets) (precision i : Nat) :
    (s.points b precision)[i]? =
      if i < b.count then some ⟨b.start i, s.valueAt precision i⟩ else none := by
  unfold points
  by_cases hi : i < b.count
  · rw [if_pos hi, List.getElem?_map, List.getElem?_range hi, Option.map_some]
  · rw [if_neg hi]
    exact List.getElem?_eq_none (by simpa using hi)

/-- A series is rendered from its layout and its aggregators, started or not. -/
theorem render_congr (hlayout : s'.emptied = s.emptied)
    (h : ∀ i, s'.aggregatorAt i = s.aggregatorAt i) (b : Buckets) (precision : Nat) :
    s'.render b precision = s.render b precision := by
  have hpoints : s'.points b precision = s.points b precision := by
    unfold points
    simp only [valueAt_eq_aggregatorAt, h]
  cases s
  cases s'
  obtain ⟨rfl, rfl, rfl, -⟩ := SeriesSlot.mk.inj hlayout
  unfold render
  rw [hpoints]

/-- **A row that is fed to a bucket changes the value of its point** and no other. -/
theorem render_feedInPlace (s : SeriesSlot) (i : Nat) (row : Row) (b : Buckets)
    (precision : Nat) : (s.feedInPlace i row).2.render b precision =
      (s.render b precision).setValue i ((s.feedInPlace i row).2.valueAt precision i) := by
  have hpoints : (s.feedInPlace i row).2.points b precision =
      (s.points b precision).modify i
        fun p => { p with value := (s.feedInPlace i row).2.valueAt precision i } := by
    refine List.ext_getElem? fun j => ?_
    rw [List.getElem?_modify, getElem?_points, getElem?_points]
    by_cases hj : i = j
    · subst hj
      split <;> simp
    · -- The other buckets keep their aggregators.
      have hkeeps : (s.feedInPlace i row).2.valueAt precision j = s.valueAt precision j := by
        rw [valueAt_eq_aggregatorAt, aggregatorAt_feedInPlace, if_neg (Ne.symm hj),
          valueAt_eq_aggregatorAt]
      rw [hkeeps]
      simp [hj]
  unfold render SeriesResult.setValue
  rw [hpoints]
  rfl

end SeriesSlot

/-! ### Results -/

namespace Accumulator

variable {a a' : Accumulator} {zone : Zone}

/-- **The rendering** is a matter of the layout and of the aggregators. -/
theorem render_congr (hlayout : a'.layout = a.layout)
    (h : ∀ k i, a'.aggregatorAt? k i = a.aggregatorAt? k i) (zone : Zone) (precision : Nat) :
    a'.render zone precision = a.render zone precision := by
  have hbuckets := buckets_eq_of_layout_eq hlayout
  have hslots : a'.slots.map (·.render a'.buckets precision) =
      a.slots.map (·.render a.buckets precision) := by
    rw [hbuckets]
    refine List.ext_getElem? fun k => ?_
    rw [List.getElem?_map, List.getElem?_map]
    have hk := getElem?_eq_of_layout_eq hlayout k
    have haggregators := h k
    unfold aggregatorAt? at haggregators
    -- Either both have a series of this number, or neither has.
    cases hs' : a'.slots[k]? with
    | none =>
      rw [hs'] at hk
      rw [Option.map_eq_none_iff.mp hk.symm]
    | some s' =>
      cases hs : a.slots[k]? with
      | none => simp [hs, hs'] at hk
      | some s =>
        rw [hs, hs'] at hk
        simp only [hs, hs', Option.map_some, Option.some.injEq] at haggregators
        exact congrArg some
          (SeriesSlot.render_congr (Option.some.inj hk) haggregators a.buckets precision)
  unfold render dateTimes
  rw [hslots, hbuckets]

namespace Takes

variable {outcome : Except Error Bool}

/-- **A row that is not used changes nothing** in the rendering, whether it is an error or is passed
over. -/
theorem render_eq (h : a.Takes k row outcome a') (houtcome : ¬ outcome = .ok true) (zone : Zone)
    (precision : Nat) : a'.render zone precision = a.render zone precision := by
  cases h with
  | undated | outside | noSeries => rfl
  | @fed i s bucket slot =>
    -- The row lacks a column, so that the aggregator stays as it was, if it was there, or new.
    have hkeeps : ((s.aggregatorAt i).feedInPlace row).2 = s.aggregatorAt i := by
      cases hfed : ((s.aggregatorAt i).feedInPlace row).1 with
      | error e => exact Aggregator.feedInPlace_of_error hfed
      | ok u =>
        rw [SeriesSlot.outcome_feedInPlace, hfed] at houtcome
        exact absurd rfl houtcome
    have htakes : a.Takes k row _ _ := .fed bucket slot
    refine render_congr htakes.layout_eq (fun l j => ?_) zone precision
    rw [htakes.aggregatorAt?_eq]
    split
    case isTrue hreached =>
      obtain ⟨rfl, hbucket⟩ := hreached
      obtain rfl := Option.some.inj (bucket.symm.trans hbucket)
      unfold aggregatorAt?
      rw [slot, Option.map_some, Option.map_some, hkeeps]
    case isFalse => rfl

/-- **A row that is used changes the value of one point**, of its series and of the bucket that it
is dated into. -/
theorem exists_render_eq_setValue (h : a.Takes k row (.ok true) a') (zone : Zone)
    (precision : Nat) : ∃ i value, a.bucketOf? row = some i ∧
      a'.render zone precision = (a.render zone precision).map (·.setValue k i value) := by
  -- Of the four rules only feeding reports that a row was used.
  generalize houtcome : (Except.ok true : Except Error Bool) = outcome at h
  cases h with
  | undated | outside | noSeries => simp at houtcome
  | @fed i s bucket slot =>
    refine ⟨i, (s.feedInPlace i row).2.valueAt precision i, bucket, ?_⟩
    have hslots : (a.slots.set k (s.feedInPlace i row).2).map (·.render a.buckets precision) =
        (a.slots.map (·.render a.buckets precision)).modify k
          (·.setValue i ((s.feedInPlace i row).2.valueAt precision i)) := by
      rw [List.map_set, SeriesSlot.render_feedInPlace, List.modify_eq_set_getElem?,
        List.getElem?_map, slot]
      rfl
    unfold render
    change (a.dateTimes zone >>= fun texts => pure _) = _
    cases a.dateTimes zone with
    | error e => rfl
    | ok texts =>
      simp only [ok_bind, hslots]
      rfl

end Takes

/-! ### Runs -/

/-- **How the rows of several series and buckets are mixed does not show**, as long as those of one
series and bucket are the same ones in the same order. -/
theorem render_accumulateAllInPlace {calls calls' : List (Nat × Row)}
    (h : ∀ k i, a.rowsFor calls' k i = a.rowsFor calls k i) (zone : Zone) (precision : Nat) :
    (a.accumulateAllInPlace calls').render zone precision =
      (a.accumulateAllInPlace calls).render zone precision := by
  refine render_congr ?_ (fun k i => ?_) zone precision
  · rw [layout_accumulateAllInPlace, layout_accumulateAllInPlace]
  · rw [aggregatorAt?_accumulateAllInPlace, aggregatorAt?_accumulateAllInPlace, h]

/-- **Accumulating touches one point and fails cleanly.** Of a row, the rendering of an accumulator
that calls lead to shows one new value at most: in the point of the row's series whose bucket spans
the row's time. It shows nothing of a row that is passed over or is an error, although the
accumulator may not be the same as before. And it does not show in which order the rows of different
series and buckets have come. -/
theorem Reachable.render_accumulate (a : Accumulator) (h : a.Reachable) (zone : Zone)
    (precision : Nat) :
    (∀ (k : Nat) (row : Row),
      a.accumulate k row =
          (a.accumulateInPlace k row).1.map (fun used => ((a.accumulateInPlace k row).2, used)) ∧
      ((a.accumulateInPlace k row).1 = .ok false ∨
          (∃ e, (a.accumulateInPlace k row).1 = .error e) →
        (a.accumulateInPlace k row).2.render zone precision = a.render zone precision) ∧
      ((a.accumulateInPlace k row).1 = .ok true →
        ∃ t i value, row.integer? a.timeColumn = some t ∧ a.buckets.Spans i t.toInt ∧
          (a.accumulateInPlace k row).2.render zone precision =
            (a.render zone precision).map (·.setValue k i value))) ∧
    ∀ calls calls' : List (Nat × Row), (∀ k i, a.rowsFor calls' k i = a.rowsFor calls k i) →
      (a.accumulateAllInPlace calls').render zone precision =
        (a.accumulateAllInPlace calls).render zone precision := by
  refine ⟨fun k row => ⟨accumulate_eq_accumulateInPlace a k row, fun houtcome => ?_,
    fun houtcome => ?_⟩, fun calls calls' hrows => render_accumulateAllInPlace hrows zone precision⟩
  · -- A row that was not used, be it for an error, leaves every point as it is.
    refine (a.takes k row).render_eq (fun htrue => ?_) zone precision
    rw [htrue] at houtcome
    simp at houtcome
  · have htakes := a.takes k row
    rw [houtcome] at htakes
    obtain ⟨i, value, hbucket, hrender⟩ := htakes.exists_render_eq_setValue zone precision
    obtain ⟨t, ht, hspans⟩ := h.exists_spans hbucket
    exact ⟨t, i, value, ht, hspans, hrender⟩

/-- A day in two halves, and two series of one counter. -/
def twoSeries : Accumulator :=
  let a : Accumulator := { buckets := .ofWindow 946598400000 946684799999 2 }
  let a := (a.addSeries "first" Environment.samplePlan.series [⟨"ABCD-EFGH", 1⟩]).1
  (a.addSeries "second" Environment.samplePlan.series [⟨"ABCD-EFGH", 2⟩]).1

/-- A row without the counter starts an aggregator in the second series, which does not show; a row
with it changes the value of the afternoon in the first. When the rows of the second series come
first, the points are the same. -/
theorem Reachable.render_accumulate_twoSeries :
    ((twoSeries.accumulateInPlace 1 Environment.tornRecord.row).2.slots[1]?.map
      fun s => s.filled.contains 1) = some true ∧
    (∃ e, (twoSeries.accumulateInPlace 1 Environment.tornRecord.row).1 = .error e) ∧
    (twoSeries.accumulateInPlace 1 Environment.tornRecord.row).2.render .utc 2 =
      twoSeries.render .utc 2 ∧
    (∃ value, (twoSeries.accumulateInPlace 0 Environment.sampleRecord.row).2.render .utc 2 =
      (twoSeries.render .utc 2).map (·.setValue 0 1 value)) ∧
    (twoSeries.accumulateAllInPlace [(1, Environment.tornRecord.row),
        (1, Environment.sampleRecord.row), (0, Environment.sampleRecord.row)]).render .utc 2 =
      (twoSeries.accumulateAllInPlace [(0, Environment.sampleRecord.row),
        (1, Environment.tornRecord.row), (1, Environment.sampleRecord.row)]).render .utc 2 := by
  -- Two series share the buckets of a day; the torn record lacks the column that is summed.
  let day : Span := ⟨none, "1999-12-31", 946598400000, 946684799999, .day⟩
  have hnew : Accumulator.new day day 2 =
      .ok { buckets := .ofWindow 946598400000 946684799999 2 } := rfl
  have hreachable : twoSeries.Reachable := .addSeries (.addSeries (.new hnew) _ _ _) _ _ _
  obtain ⟨hrows, hruns⟩ := Reachable.render_accumulate twoSeries hreachable .utc 2
  have htorn : (twoSeries.accumulateInPlace 1 Environment.tornRecord.row).1 =
      .error (.missingColumn "Hits") := by decide +kernel
  have hused : (twoSeries.accumulateInPlace 0 Environment.sampleRecord.row).1 = .ok true := by
    decide +kernel
  refine ⟨by decide +kernel, ⟨_, htorn⟩, (hrows 1 _).2.1 (.inr ⟨_, htorn⟩), ?_,
    hruns _ _ fun k i => ?_⟩
  · obtain ⟨t, i, value, ht, hspans, hrender⟩ := (hrows 0 _).2.2 hused
    have htime : Environment.sampleRecord.row.integer? twoSeries.timeColumn =
        some 946645200000 := by decide +kernel
    obtain rfl := Option.some.inj (htime.symm.trans ht)
    have hi : (1 : Int) = i := (Buckets.spans_iff_div_eq (by decide)).mp hspans
    obtain rfl := Int.ofNat.inj hi
    exact ⟨value, hrender⟩
  · unfold rowsFor
    by_cases hk : k = 0
    · subst hk
      simp [List.filter_cons]
    · simp [List.filter_cons, Ne.symm hk]

end Accumulator

end MetricSeries
