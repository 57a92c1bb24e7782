import MetricSeries.Proofs.Query.Changes
import MetricSeries.Proofs.Query.Clauses

/-!
# The columns of a plan are the columns that are read

A plan says which columns to fetch: those that the aggregation reads, after the settings have named
its time and system columns, and the field's own (`SeriesField.mem_columns_iff`). These and the time
column are enough. A row that carries them can be accumulated, whatever has been accumulated before,
and what else it carries does not count (`Aggregator.reads_columns`).

`Environment.Accumulates` are the accumulators that this is said of. Queries append their series to
such accumulators (`accumulates_addSeries`), and rows leave such accumulators behind, used or not
(`Accumulates.accumulate`), so that what holds of one row holds of a run of rows.
-/

namespace MetricSeries

open Fallible Time

theorem SeriesField.mem_columns_iff {s : SeriesField} {c : String} :
    c ∈ s.columns ↔ c = s.field.column ∨ c ∈ s.aggregation.columns := by
  unfold columns
  dsimp only
  split
  case isTrue h =>
    refine ⟨.inr, ?_⟩
    rintro (rfl | hc)
    · exact h
    · exact hc
  case isFalse h => exact List.mem_cons

namespace Environment

variable {env : Environment} {p : SeriesPlan} {plans : List SeriesPlan} {a : Accumulator} {k : Nat}
  {row row' : Row} {rows rows' : List Row}

/-! ### The columns of a plan -/

theorem columns_of_planAll {aliases : List (List Char)} {ds : List Definition}
    (h : env.planAll aliases ds = .ok plans) (hp : p ∈ plans) : p.columns = p.series.columns := by
  -- By induction on the definitions, each plan being made from its own definition.
  induction ds generalizing aliases plans with
  | nil =>
    rw [planAll_nil] at h
    obtain rfl := Except.ok.inj h
    exact absurd hp List.not_mem_nil
  | cons d ds ih =>
    rw [planAll_cons] at h
    obtain ⟨q, hq, h⟩ := bind_eq_ok_iff.mp h
    obtain ⟨rest, hrest, h⟩ := bind_eq_ok_iff.mp h
    obtain rfl := Except.ok.inj h
    obtain rfl | hp := List.mem_cons.mp hp
    · obtain ⟨series, -, hq⟩ := bind_eq_ok_iff.mp hq
      obtain rfl := Except.ok.inj hq
      rfl
    · exact ih hrest hp

/-- What the aggregation of a plan reads, as the settings have named it, is among the plan's
columns. -/
theorem columns_subset_of_plan {text : String} {aliases : Option String}
    (h : env.plan text aliases = .ok plans) (hp : p ∈ plans) :
    p.series.aggregation.columns ⊆ p.columns := by
  obtain ⟨ds, -, h⟩ := bind_eq_ok_iff.mp h
  rw [columns_of_planAll h hp]
  exact fun c hc => SeriesField.mem_columns_iff.mpr (.inr hc)

/-! ### Accumulators for a planned series -/

/-- **An accumulator takes the rows of a planned series** under a number: calls lead to it, it dates
rows by the column of the settings, and the series has that number. -/
structure Accumulates (env : Environment) (p : SeriesPlan) (a : Accumulator) (k : Nat) : Prop where
  reachable : a.Reachable
  timeColumn : a.timeColumn = env.config.timeColumn
  slot : ∃ s, a.slots[k]? = some s ∧ s.field = p.series

/-- A query appends its series one by one to such an accumulator. -/
theorem accumulates_addSeries (h : a.Reachable) (ht : a.timeColumn = env.config.timeColumn)
    (p : SeriesPlan) : env.Accumulates p (a.addSeries p.name p.series p.definition.systems).1
      (a.addSeries p.name p.series p.definition.systems).2 where
  reachable := h.addSeries _ _ _
  timeColumn := ht
  slot := ⟨_, List.getElem?_concat_length, rfl⟩

/-- **The accumulators of a query** are accumulators that calls lead to. -/
theorem reachable_of_foldlM_accumulateSeries {a' : Accumulator} {window : QueryWindow}
    (h : a.Reachable) (ha : plans.foldlM (env.accumulateSeries window) a = .ok a') :
    a'.Reachable := by
  induction plans generalizing a with
  | nil =>
    obtain rfl := Except.ok.inj ha
    exact h
  | cons p plans ih =>
    rw [List.foldlM_cons] at ha
    obtain ⟨b, hb, ha⟩ := bind_eq_ok_iff.mp ha
    -- The series is appended, and then its rows are accumulated.
    obtain ⟨provider, -, hb⟩ := bind_eq_ok_iff.mp hb
    obtain ⟨rows, -, hb⟩ := bind_eq_ok_iff.mp hb
    exact ih ((h.addSeries p.name p.series p.definition.systems).of_accumulateAll hb) ha

namespace Accumulates

variable (h : env.Accumulates p a k)
include h

/-- **Rows do not change that**, whichever series they are for. -/
theorem accumulate (l : Nat) (row : Row) :
    env.Accumulates p (a.accumulateInPlace l row).2 k := by
  have hlayout := (a.takes l row).layout_eq
  -- A row changes no series but for what it has gathered, so the slot keeps its field.
  constructor
  case reachable => exact h.reachable.accumulate l row
  case timeColumn => rw [Accumulator.timeColumn_eq_of_layout_eq hlayout, h.timeColumn]
  case slot =>
    obtain ⟨s, hs, hfield⟩ := h.slot
    have hk := Accumulator.getElem?_eq_of_layout_eq hlayout k
    rw [hs] at hk
    obtain ⟨s', hs', hemptied⟩ := Option.map_eq_some_iff.mp hk
    have hfield' : s'.emptied.field = s.emptied.field := congrArg SeriesSlot.field hemptied
    exact ⟨s', hs', hfield'.trans hfield⟩

/-- A row that carries the time column and the columns of the plan is not an error. -/
theorem exists_accumulate (hcolumns : p.series.aggregation.columns ⊆ p.columns)
    (hrow : ∀ c ∈ env.config.timeColumn :: p.columns, row.contains c) :
    ∃ b used, a.accumulate k row = .ok (b, used) := by
  obtain ⟨htime, hrow⟩ := List.forall_mem_cons.mp hrow
  obtain ⟨s, hs, hfield⟩ := h.slot
  have hread : ∀ c ∈ s.field.aggregation.columns, row.contains c := by
    rw [hfield]
    exact fun c hc => hrow c (hcolumns hc)
  rw [← h.timeColumn] at htime
  obtain ⟨used, hused⟩ := h.reachable.exists_ok_iff.mpr ⟨htime, fun _ => ⟨s, hs, hread⟩⟩
  exact ⟨_, used, Accumulator.accumulate_eq_ok_iff.mpr (Prod.ext hused rfl)⟩

/-- The other columns of a row do not count. -/
theorem accumulateInPlace_congr (hcolumns : p.series.aggregation.columns ⊆ p.columns)
    (hrow : row.AgreesOn (env.config.timeColumn :: p.columns) row') :
    a.accumulateInPlace k row' = a.accumulateInPlace k row := by
  obtain ⟨s, hs, hfield⟩ := h.slot
  refine h.reachable.accumulateInPlace_congr ?_ fun s' hs' => ?_
  · rw [h.timeColumn]
    exact hrow _ List.mem_cons_self
  · obtain rfl := Option.some.inj (hs.symm.trans hs')
    rw [hfield]
    exact hrow.mono fun c hc => List.mem_cons_of_mem _ (hcolumns hc)

/-- **The other columns of rows do not count**, in a run of any length. -/
theorem accumulateAll_congr (hcolumns : p.series.aggregation.columns ⊆ p.columns)
    (hrows : List.Forall₂ (Row.AgreesOn (env.config.timeColumn :: p.columns)) rows rows') :
    a.accumulateAll k rows' = a.accumulateAll k rows := by
  unfold Accumulator.accumulateAll
  induction hrows generalizing a with
  | nil => rfl
  | @cons row row' rows rows' hrow hrows ih =>
    rw [List.foldlM_cons, List.foldlM_cons, Accumulator.accumulate_eq_accumulateInPlace,
      Accumulator.accumulate_eq_accumulateInPlace, h.accumulateInPlace_congr hcolumns hrow]
    -- The runs have come to the same accumulator, which takes the rows of the series as before.
    cases (a.accumulateInPlace k row).1 with
    | error e => rfl
    | ok used => exact ih (h.accumulate k row)

end Accumulates

end Environment

/-! ### Aggregators and plans -/

/-- **The columns that are declared are the columns that are read.** An aggregator of any kind fails
to take a row exactly when the row lacks one of the columns of the aggregation, and then it is as it
was; rows that agree on these columns are the same to it. Of a planned series, a row that carries
the time column and the columns of the plan is never an error, and rows that agree on these lead to
the same accumulator. -/
theorem Aggregator.reads_columns :
    (∀ (a : Aggregator) (row : Row),
      a.feed row = (a.feedInPlace row).1.map (fun _ => (a.feedInPlace row).2) ∧
      ((∃ e, (a.feedInPlace row).1 = .error e) ↔
        ∃ c ∈ a.aggregation.columns, ¬ row.contains c) ∧
      (∀ e, (a.feedInPlace row).1 = .error e → (a.feedInPlace row).2 = a) ∧
      ∀ row', row.AgreesOn a.aggregation.columns row' → a.feedInPlace row' = a.feedInPlace row) ∧
    ∀ (env : Environment) (text : String) (aliases : Option String) (plans : List SeriesPlan),
      env.plan text aliases = .ok plans → ∀ p ∈ plans, ∀ a k, env.Accumulates p a k →
        (∀ row, (∀ c ∈ env.config.timeColumn :: p.columns, row.contains c) →
          ∃ b used, a.accumulate k row = .ok (b, used)) ∧
        (∀ row row', row.AgreesOn (env.config.timeColumn :: p.columns) row' →
          a.accumulateInPlace k row' = a.accumulateInPlace k row) ∧
        ∀ rows rows', List.Forall₂ (Row.AgreesOn (env.config.timeColumn :: p.columns)) rows rows' →
          a.accumulateAll k rows' = a.accumulateAll k rows := by
  refine ⟨fun a row => ⟨a.feed_eq_feedInPlace row, exists_feedInPlace_error_iff,
    fun e he => feedInPlace_of_error he, fun row' hrow => feedInPlace_congr hrow⟩, ?_⟩
  intro env text aliases plans hplan p hp a k h
  -- What a plan lists includes all that its aggregation reads.
  have hcolumns := Environment.columns_subset_of_plan hplan hp
  exact ⟨fun row hrow => h.exists_accumulate hcolumns hrow,
    fun row row' hrow => h.accumulateInPlace_congr hcolumns hrow,
    fun rows rows' hrows => h.accumulateAll_congr hcolumns hrows⟩

/-- A day in two halves, and one counter as it is planned. -/
def Environment.sampleAccumulator : Accumulator :=
  (Accumulator.addSeries { buckets := .ofWindow 946598400000 946684799999 2 } samplePlan.name
    samplePlan.series samplePlan.definition.systems).1

/-- A rate whose settings name a column that the row lacks cannot take it. The planned counter can,
and it does not notice a column more. -/
theorem Aggregator.reads_columns_hits :
    (∃ e, ((start ((Aggregation.perMinute "Hits").withRowColumns "Begin" "EndTime"
      "SystemID")).feedInPlace Environment.sampleRecord.row).1 = .error e) ∧
    (∃ b used, Environment.sampleAccumulator.accumulate 0 Environment.sampleRecord.row =
      .ok (b, used)) ∧
    Environment.sampleAccumulator.accumulateAll 0
        [Environment.sampleRecord.row, Environment.sampleRecord.row.insert "Misses" none] =
      Environment.sampleAccumulator.accumulateAll 0
        [Environment.sampleRecord.row, Environment.sampleRecord.row] := by
  let day : Span := ⟨none, "1999-12-31", 946598400000, 946684799999, .day⟩
  have hnew : Accumulator.new day day 2 =
      .ok { buckets := .ofWindow 946598400000 946684799999 2 } := rfl
  have haccumulates : (Environment.sample []).Accumulates Environment.samplePlan
      Environment.sampleAccumulator 0 :=
    Environment.accumulates_addSeries (.new hnew) rfl Environment.samplePlan
  have hplan : (Environment.sample []).plan "ABCD-EFGH.1~Interval.A~hits" none =
      .ok [Environment.samplePlan] := by decide +kernel
  obtain ⟨hfeeds, hplans⟩ := Aggregator.reads_columns
  obtain ⟨haccepts, -, hruns⟩ := hplans (Environment.sample []) _ none _ hplan _
    (List.mem_singleton_self _) _ _ haccumulates
  refine ⟨(hfeeds _ _).2.1.mpr ⟨"Begin", by simp [start, Aggregation.perMinute,
    Aggregation.withRowColumns, Aggregation.columns], by decide +kernel⟩, haccepts _ ?_,
    hruns _ _ (.cons (fun _ _ => rfl) (.cons (fun c hc => ?_) .nil))⟩
  · decide +kernel
  · -- The new column is not among those that are read.
    refine SortedMap.get?_insert_of_ne _ ?_ _
    rintro rfl
    revert hc
    decide +kernel

end MetricSeries
