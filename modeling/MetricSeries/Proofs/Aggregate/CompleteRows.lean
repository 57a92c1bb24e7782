import Mathlib.Data.List.Induction
import MetricSeries.Proofs.Aggregate.Columns

/-!
# The rows that contribute

A row that carries the columns of an aggregation is always taken, and what it does to the state is
`Aggregation.absorb`: feeding rows is running over them (`Aggregator.feedAll_eq_foldl_absorb`).

A row contributes when none of the cells in the columns is NULL. It is then complete
(`Row.isComplete`). Every other row changes nothing, whatever the kind of the aggregation
(`Aggregation.absorb_of_not_complete`), so that a run over rows is a run over the complete ones
among them. What each of these keeps holds in the end (`Aggregator.exists_feedAll`).
-/

namespace MetricSeries

open Fallible

variable {row : Row} {rows rows' : List Row} {column : String} {columns : List String}
  {a : Aggregation}

/-! ### Complete rows -/

namespace Row

/-- **A row is complete** in columns when it has a cell in each of them that is not NULL. -/
def isComplete (columns : List String) (row : Row) : Bool :=
  columns.all fun c => (row.cell? c).isSome

theorem isComplete_iff : row.isComplete columns = true ↔ ∀ c ∈ columns, (row.cell? c).isSome :=
  List.all_eq_true

theorem exists_cell_of_isComplete (h : row.isComplete columns = true) (hc : column ∈ columns) :
    ∃ cell, row.cell? column = some cell :=
  Option.isSome_iff_exists.mp (isComplete_iff.mp h column hc)

theorem exists_integer_of_isComplete (h : row.isComplete columns = true) (hc : column ∈ columns) :
    ∃ n, row.integer? column = some n := by
  obtain ⟨cell, hcell⟩ := exists_cell_of_isComplete h hc
  exact ⟨cell.toInt64, by rw [integer?_eq_map, hcell, Option.map_some]⟩

theorem exists_null_of_not_isComplete (h : ¬ row.isComplete columns = true) :
    ∃ c ∈ columns, row.cell? c = none := by
  rw [isComplete_iff] at h
  push Not at h
  obtain ⟨c, hc, hnone⟩ := h
  exact ⟨c, hc, Option.not_isSome_iff_eq_none.mp hnone⟩

end Row

/-! ### What a row does to the state -/

namespace Aggregation

/-- **A row with NULL in one of the columns contributes nothing**, to an aggregation of any kind. -/
theorem absorb_of_not_complete (h : ¬ row.isComplete a.columns = true) (s : a.State) :
    a.absorb row s = s := by
  obtain ⟨c, hc, hnone⟩ := Row.exists_null_of_not_isComplete h
  have hinteger : row.integer? c = none := by rw [Row.integer?_eq_map, hnone, Option.map_none]
  cases a with
  | sum column kind =>
    obtain rfl := List.mem_singleton.mp hc
    exact congrArg (WideSum.addTo s kind) hnone
  | average column =>
    obtain rfl := List.mem_singleton.mp hc
    exact congrArg (Mean.add s) hnone
  | min column kind =>
    obtain rfl := List.mem_singleton.mp hc
    exact congrArg (Keep.smallest.add kind s) hnone
  | max column kind =>
    obtain rfl := List.mem_singleton.mp hc
    exact congrArg (Keep.largest.add kind s) hnone
  | naturalAverage numerator denominator | percent numerator denominator =>
    -- Either cell may be the missing one, and then the other one does not count.
    simp only [columns, List.mem_cons, List.not_mem_nil, or_false] at hc
    change Quotient.add s (row.cell? numerator) (row.cell? denominator) = s
    rcases hc with rfl | rfl
    · rw [hnone]
      rfl
    · rw [hnone]
      cases row.cell? numerator <;> rfl
  | naturalPerMinute counter startTime endTime system =>
    simp only [columns, List.mem_cons, List.not_mem_nil, or_false] at hc
    change Rate.add s (row.cell? counter) (row.integer? startTime) (row.integer? endTime)
      (row.integer? system) = s
    rcases hc with rfl | rfl | rfl | rfl
    · rw [hnone]
      rfl
    · rw [hinteger]
      cases row.cell? counter <;> rfl
    · rw [hinteger]
      cases row.cell? counter <;> cases row.integer? startTime <;> rfl
    · rw [hinteger]
      cases row.cell? counter <;> cases row.integer? startTime <;>
        cases row.integer? endTime <;> rfl

/-- The rows that contribute to an aggregation, in their order. -/
def completeRows (a : Aggregation) (rows : List Row) : List Row :=
  rows.filter (·.isComplete a.columns)

theorem completeRows_perm (a : Aggregation) (h : rows.Perm rows') :
    (a.completeRows rows).Perm (a.completeRows rows') :=
  h.filter _

theorem length_completeRows_le (a : Aggregation) (rows : List Row) :
    (a.completeRows rows).length ≤ rows.length :=
  List.length_filter_le _ _

theorem mem_completeRows_iff :
    row ∈ a.completeRows rows ↔ row ∈ rows ∧ row.isComplete a.columns = true :=
  List.mem_filter

/-- A run over rows is a run over the complete ones among them. -/
theorem foldl_absorb_completeRows (s : a.State) :
    (a.completeRows rows).foldl (fun s row => a.absorb row s) s =
      rows.foldl (fun s row => a.absorb row s) s := by
  induction rows generalizing s with
  | nil => rfl
  | cons row rows ih =>
    unfold completeRows at *
    -- A row that is filtered out is one that leaves the state as it was.
    by_cases hrow : row.isComplete a.columns = true
    · rw [List.filter_cons_of_pos hrow, List.foldl_cons, List.foldl_cons, ih]
    · rw [List.filter_cons_of_neg hrow, List.foldl_cons, absorb_of_not_complete hrow, ih]

/-- **What each complete row keeps holds after all of them.** -/
theorem foldl_absorb_induction {P : List Row → a.State → Prop} (initial : P [] a.initial)
    (step : ∀ used row s, used ++ [row] <+: rows → P used s → P (used ++ [row]) (a.absorb row s)) :
    P rows (rows.foldl (fun s row => a.absorb row s) a.initial) := by
  induction rows using List.reverseRecOn with
  | nil => exact initial
  | append_singleton rows row ih =>
    rw [List.foldl_append, List.foldl_cons, List.foldl_nil]
    -- A beginning of the shorter list is one of the longer list.
    exact step rows row _ List.prefix_rfl (ih fun used r s hused =>
      step used r s (hused.trans (List.prefix_append rows [row])))

end Aggregation

/-! ### Runs -/

namespace Aggregator

/-- **Feeding rows is running over them**, if they carry the columns of the aggregation. -/
theorem feedAll_eq_foldl_absorb (hrows : ∀ row ∈ rows, ∀ c ∈ a.columns, row.contains c)
    (s : a.State) : (⟨a, s⟩ : Aggregator).feedAll rows =
      .ok ⟨a, rows.foldl (fun s row => a.absorb row s) s⟩ := by
  -- By induction on the rows: no row fails, so each moves the state on and the rest starts from
  -- there.
  induction rows generalizing s with
  | nil => rfl
  | cons row rows ih =>
    obtain ⟨hrow, hrows⟩ := List.forall_mem_cons.mp hrows
    have hfeed : (⟨a, s⟩ : Aggregator).feed row = .ok ⟨a, a.absorb row s⟩ := by
      unfold feed
      dsimp only
      rw [Aggregation.feed_eq_absorb hrow]
      rfl
    have hrest := ih hrows (a.absorb row s)
    unfold feedAll at hrest ⊢
    rw [List.foldlM_cons, hfeed, ok_bind, hrest, List.foldl_cons]

/-- **What each complete row keeps holds of the rows that are fed to a new aggregator.** -/
theorem exists_feedAll {P : List Row → a.State → Prop}
    (hrows : ∀ row ∈ rows, ∀ c ∈ a.columns, row.contains c) (initial : P [] a.initial)
    (step : ∀ used row s, row ∈ rows → row.isComplete a.columns = true →
      used.length < (a.completeRows rows).length → P used s →
      P (used ++ [row]) (a.absorb row s)) :
    ∃ s, (start a).feedAll rows = .ok ⟨a, s⟩ ∧ P (a.completeRows rows) s := by
  refine ⟨_, feedAll_eq_foldl_absorb hrows a.initial, ?_⟩
  rw [← Aggregation.foldl_absorb_completeRows]
  refine Aggregation.foldl_absorb_induction initial fun used row s hused => ?_
  -- The row is one of the complete rows, and those in front of it are fewer than all.
  have hmem := Aggregation.mem_completeRows_iff.mp
    (hused.subset (List.mem_append_right used (List.mem_singleton_self row)))
  have hlength := hused.length_le
  rw [List.length_append, List.length_singleton] at hlength
  exact step used row s hmem.1 hmem.2 hlength

end Aggregator

end MetricSeries
