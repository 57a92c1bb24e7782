import MetricSeries.Aggregate.InPlace
import MetricSeries.Proofs.Aggregate.IntegerViews
import MetricSeries.Proofs.Fallible

/-!
# What an aggregator reads of a row

The steps by which a row is taken begin by reading its cells, in the order of the columns, and the
first column that the row does not carry ends them. `Row.demand` is what such a beginning comes to,
and one reading more in front is one column more (`Update.runOn_value`, `Update.runOn_long`). So the
steps of every kind come to the same (`Aggregation.update_runOn`): either the row lacks a column,
which is the error, and the state is what it was; or it carries them all, and the state takes its
cells (`Aggregation.absorb`). NULL in a column is no obstacle.

So whether a row can be fed to an aggregator does not depend on what the aggregator has gathered
(`Aggregator.exists_feed_iff`), and neither the outcome nor the state depends on any other column
(`Aggregator.feedInPlace_congr`).

`Row.integer?` is the integer view of a cell, under which points in time and system numbers are
read; it does not tell NULL from a column that the row does not carry, which `Row.contains` does.
-/

namespace MetricSeries

open Fallible

variable {σ α : Type} {row row' : Row} {column : String} {columns : List String}

/-! ### Columns of a row -/

namespace Row

/-- The cell in a column; none for NULL and for a column that the row does not carry. -/
def cell? (row : Row) (column : String) : Option Cell := (row.get? column).getD none

/-- The integer in a column, as the view of the cell; none for NULL and for a column that the row
does not carry. -/
def integer? (row : Row) (column : String) : Option Int64 := (row.cell? column).map Cell.view

/-- What is read of a cell as an integer is its view. -/
theorem integer?_eq_map (row : Row) (column : String) :
    row.integer? column = (row.cell? column).map Cell.toInt64 :=
  Option.map_congr fun c _ => c.toInt64_eq_view.symm

theorem value_of_contains (h : row.contains column) :
    row.value column = .ok (row.cell? column) := by
  unfold SortedMap.contains at h
  unfold value cell?
  cases hget : row.get? column with
  | none =>
    rw [hget] at h
    cases h
  | some cell => rfl

theorem value_of_not_contains (h : ¬ row.contains column) :
    row.value column = .error (.missingColumn column) := by
  unfold SortedMap.contains at h
  unfold value
  cases hget : row.get? column with
  | none => rfl
  | some cell =>
    rw [hget] at h
    exact absurd rfl h

theorem long_of_contains (h : row.contains column) :
    row.long column = .ok (row.integer? column) := by
  unfold long
  rw [value_of_contains h, integer?_eq_map]
  rfl

theorem long_of_not_contains (h : ¬ row.contains column) :
    row.long column = .error (.missingColumn column) := by
  unfold long
  rw [value_of_not_contains h, error_bind]

theorem long_eq_ok_iff {v : Option Int64} :
    row.long column = .ok v ↔ row.contains column ∧ v = row.integer? column := by
  by_cases h : row.contains column
  · rw [long_of_contains h]
    simp [h, eq_comm]
  · rw [long_of_not_contains h]
    simp [h]

theorem eq_of_long_eq_error {e : Error} (h : row.long column = .error e) :
    e = .missingColumn column := by
  by_cases hcontains : row.contains column
  · rw [long_of_contains hcontains] at h
    cases h
  · rw [long_of_not_contains hcontains] at h
    exact (Except.error.inj h).symm

theorem contains_of_integer? {n : Int64} (h : row.integer? column = some n) :
    row.contains column := by
  unfold SortedMap.contains
  cases hcell : row.get? column with
  | none => simp [integer?, cell?, hcell] at h
  | some cell => rfl

/-! ### The columns that a row lacks -/

/-- The first of some columns that a row does not carry. -/
def absent? (row : Row) (columns : List String) : Option String :=
  columns.find? fun c => !row.contains c

theorem absent?_cons_of_contains (h : row.contains column) :
    row.absent? (column :: columns) = row.absent? columns :=
  List.find?_cons_of_neg (by simp [h])

theorem absent?_cons_of_not_contains (h : ¬ row.contains column) :
    row.absent? (column :: columns) = some column :=
  List.find?_cons_of_pos (by simp [h])

theorem absent?_eq_none_iff : row.absent? columns = none ↔ ∀ c ∈ columns, row.contains c := by
  unfold absent?
  simp [List.find?_eq_none]

theorem not_contains_of_absent? (h : row.absent? columns = some column) :
    column ∈ columns ∧ ¬ row.contains column :=
  ⟨List.mem_of_find?_eq_some h, by simpa using List.find?_some h⟩

/-- **What a demand for columns comes to**: the state `t` when the row carries them all, and
otherwise the error that names the first one missing, and the state `s` as it was. -/
def demand (row : Row) (columns : List String) (s t : σ) : Except Error Unit × σ :=
  match row.absent? columns with
  | none => (.ok (), t)
  | some c => (.error (.missingColumn c), s)

theorem demand_cons_of_contains (h : row.contains column) (s t : σ) :
    row.demand (column :: columns) s t = row.demand columns s t := by
  unfold demand
  rw [absent?_cons_of_contains h]

theorem demand_cons_of_not_contains (h : ¬ row.contains column) (s t : σ) :
    row.demand (column :: columns) s t = (.error (.missingColumn column), s) := by
  unfold demand
  rw [absent?_cons_of_not_contains h]

/-- The error of a demand is that a column is missing, and it comes with the state as it was. -/
theorem of_demand_eq_error {s t : σ} {e : Error} (h : (row.demand columns s t).1 = .error e) :
    (∃ c ∈ columns, ¬ row.contains c ∧ e = .missingColumn c) ∧
      (row.demand columns s t).2 = s := by
  unfold demand at h ⊢
  -- A demand only fails in the branch that has found a missing column, and that branch returns the
  -- old state.
  cases habsent : row.absent? columns with
  | none =>
    rw [habsent] at h
    cases h
  | some c =>
    rw [habsent] at h
    obtain ⟨hc, hmissing⟩ := not_contains_of_absent? habsent
    exact ⟨⟨c, hc, hmissing, (Except.error.inj h).symm⟩, rfl⟩

theorem exists_demand_error_iff {s t : σ} :
    (∃ e, (row.demand columns s t).1 = .error e) ↔ ∃ c ∈ columns, ¬ row.contains c := by
  refine ⟨?_, ?_⟩
  · rintro ⟨e, he⟩
    obtain ⟨⟨c, hc, hmissing, -⟩, -⟩ := of_demand_eq_error he
    exact ⟨c, hc, hmissing⟩
  · rintro ⟨c, hc, hmissing⟩
    unfold demand
    cases habsent : row.absent? columns with
    | none => exact absurd (absent?_eq_none_iff.mp habsent c hc) hmissing
    | some c => exact ⟨_, rfl⟩

/-! ### Rows that agree -/

/-- **Rows agree on columns** when they have the same cells there, or both have none. -/
def AgreesOn (columns : List String) (row row' : Row) : Prop :=
  ∀ c ∈ columns, row'.get? c = row.get? c

theorem AgreesOn.mono {columns' : List String} (h : AgreesOn columns row row')
    (hsubset : columns' ⊆ columns) : AgreesOn columns' row row' :=
  fun c hc => h c (hsubset hc)

namespace AgreesOn

variable (h : AgreesOn columns row row')
include h

theorem contains_eq (hc : column ∈ columns) : row'.contains column = row.contains column :=
  congrArg Option.isSome (h column hc)

theorem cell?_eq (hc : column ∈ columns) : row'.cell? column = row.cell? column :=
  congrArg (·.getD none) (h column hc)

theorem integer?_eq (hc : column ∈ columns) : row'.integer? column = row.integer? column :=
  congrArg (·.map Cell.view) (h.cell?_eq hc)

theorem demand_eq (s t : σ) : row'.demand columns s t = row.demand columns s t := by
  induction columns with
  | nil => rfl
  | cons c columns ih =>
    have hrest := ih (h.mono (List.subset_cons_self c columns))
    have hc := h.contains_eq List.mem_cons_self
    -- The rows agree on whether the first column is there, and only that decides the first step.
    by_cases hcontains : row.contains c
    · rw [demand_cons_of_contains hcontains, demand_cons_of_contains (hc.trans hcontains), hrest]
    · rw [demand_cons_of_not_contains hcontains,
        demand_cons_of_not_contains fun h' => hcontains (hc.symm.trans h')]

end AgreesOn

end Row

/-! ### Steps of reading -/

namespace Update

variable {f : Option Cell → Update σ Unit} {g : Option Int64 → Update σ Unit} {s t : σ}

/-- Steps that read a cell demand its column and what the other steps demand. -/
theorem runOn_value (h : (f (row.cell? column)).runOn s = row.demand columns s t) :
    (reading (row.value column) >>= f).runOn s = row.demand (column :: columns) s t := by
  by_cases hc : row.contains column
  · rw [Row.value_of_contains hc, Row.demand_cons_of_contains hc, ← h]
    rfl
  · rw [Row.value_of_not_contains hc, Row.demand_cons_of_not_contains hc]
    rfl

theorem runOn_long (h : (g (row.integer? column)).runOn s = row.demand columns s t) :
    (reading (row.long column) >>= g).runOn s = row.demand (column :: columns) s t := by
  by_cases hc : row.contains column
  · rw [Row.long_of_contains hc, Row.demand_cons_of_contains hc, ← h]
    rfl
  · rw [Row.long_of_not_contains hc, Row.demand_cons_of_not_contains hc]
    rfl

/-- A reading in front of other steps is a reading in front of what they come to. -/
theorem bind_eq_runOn {x : Except Error α} {k : α → Except Error σ} {u : α → Update σ Unit}
    (h : ∀ v, k v = ((u v).runOn s).1.map fun _ => ((u v).runOn s).2) :
    (x >>= k) = ((reading x >>= u).runOn s).1.map fun _ => ((reading x >>= u).runOn s).2 := by
  cases x with
  | error e => rfl
  | ok v => exact h v

end Update

/-! ### The steps of an aggregation -/

namespace Aggregation

open Update

variable {a : Aggregation}

/-- **The state after the cells of a row**, which carries the columns. -/
def absorb (row : Row) : (a : Aggregation) → a.State → a.State
  | sum column kind, total => WideSum.addTo total kind (row.cell? column)
  | average column, mean => Mean.add mean (row.cell? column)
  | naturalAverage numerator denominator, q =>
    Quotient.add q (row.cell? numerator) (row.cell? denominator)
  | naturalPerMinute counter startTime endTime system, r =>
    Rate.add r (row.cell? counter) (row.integer? startTime) (row.integer? endTime)
      (row.integer? system)
  | percent numerator denominator, q =>
    Quotient.add q (row.cell? numerator) (row.cell? denominator)
  | min column kind, kept => Keep.smallest.add kind kept (row.cell? column)
  | max column kind, kept => Keep.largest.add kind kept (row.cell? column)

/-- **The steps by which a row is taken** demand the columns of the aggregation, and then they take
the cells. -/
theorem update_runOn (row : Row) (a : Aggregation) (s : a.State) :
    (a.update row).runOn s = row.demand a.columns s (a.absorb row s) := by
  cases a with
  | sum column kind | average column | min column kind | max column kind => exact runOn_value rfl
  | naturalAverage numerator denominator | percent numerator denominator =>
    exact runOn_value (runOn_value rfl)
  | naturalPerMinute counter startTime endTime system =>
    exact runOn_value (runOn_long (runOn_long (runOn_long rfl)))

/-- Feeding yields the state that the steps leave behind, or their error. -/
theorem feed_eq_runOn (row : Row) (a : Aggregation) (s : a.State) :
    a.feed row s = ((a.update row).runOn s).1.map fun _ => ((a.update row).runOn s).2 := by
  -- The kinds demand one, two or four cells; each demand is one bind.
  cases a with
  | sum column kind | average column | min column kind | max column kind =>
    exact bind_eq_runOn fun _ => rfl
  | naturalAverage numerator denominator | percent numerator denominator =>
    exact bind_eq_runOn fun _ => bind_eq_runOn fun _ => rfl
  | naturalPerMinute counter startTime endTime system =>
    exact bind_eq_runOn fun _ => bind_eq_runOn fun _ => bind_eq_runOn fun _ =>
      bind_eq_runOn fun _ => rfl

theorem feed_eq_absorb (h : ∀ c ∈ a.columns, row.contains c) (s : a.State) :
    a.feed row s = .ok (a.absorb row s) := by
  rw [feed_eq_runOn, update_runOn]
  unfold Row.demand
  rw [Row.absent?_eq_none_iff.mpr h]
  rfl

/-- A row can be fed to an aggregation exactly when it carries the aggregation's columns. -/
theorem exists_feed_iff (row : Row) (a : Aggregation) (s : a.State) :
    (∃ s', a.feed row s = .ok s') ↔ ∀ c ∈ a.columns, row.contains c := by
  refine ⟨?_, fun h => ⟨_, feed_eq_absorb h s⟩⟩
  rintro ⟨s', h⟩
  rw [feed_eq_runOn, update_runOn] at h
  unfold Row.demand at h
  cases habsent : row.absent? a.columns with
  | none => exact Row.absent?_eq_none_iff.mp habsent
  | some c =>
    rw [habsent] at h
    cases h

/-- What a row does to the state is a matter of the columns of the aggregation. -/
theorem absorb_congr (h : row.AgreesOn a.columns row') (s : a.State) :
    a.absorb row' s = a.absorb row s := by
  -- Each kind looks at the cells of its own columns only, and these are the same in both rows.
  cases a with
  | sum column kind =>
    exact congrArg (WideSum.addTo s kind) (h.cell?_eq (List.mem_singleton_self column))
  | average column => exact congrArg (Mean.add s) (h.cell?_eq (List.mem_singleton_self column))
  | min column kind =>
    exact congrArg (Keep.smallest.add kind s) (h.cell?_eq (List.mem_singleton_self column))
  | max column kind =>
    exact congrArg (Keep.largest.add kind s) (h.cell?_eq (List.mem_singleton_self column))
  | naturalAverage numerator denominator | percent numerator denominator =>
    exact congrArg₂ (Quotient.add s) (h.cell?_eq List.mem_cons_self)
      (h.cell?_eq (List.mem_cons_of_mem _ List.mem_cons_self))
  | naturalPerMinute counter startTime endTime system =>
    have hcount : row'.cell? counter = row.cell? counter := h.cell?_eq (by simp [columns])
    have hfirst : row'.integer? startTime = row.integer? startTime :=
      h.integer?_eq (by simp [columns])
    have hlast : row'.integer? endTime = row.integer? endTime := h.integer?_eq (by simp [columns])
    have hsystem : row'.integer? system = row.integer? system := h.integer?_eq (by simp [columns])
    change Rate.add s _ _ _ _ = Rate.add s _ _ _ _
    rw [hcount, hfirst, hlast, hsystem]

end Aggregation

/-! ### Aggregators -/

namespace Aggregator

variable {a b : Aggregator}

/-- A row can be fed to an aggregator exactly when it carries the columns of the aggregation,
whatever has been gathered. -/
theorem exists_feed_iff (a : Aggregator) (row : Row) :
    (∃ b, a.feed row = .ok b) ↔ ∀ c ∈ a.aggregation.columns, row.contains c := by
  rw [← Aggregation.exists_feed_iff row a.aggregation a.state]
  unfold feed
  rw [exists_bind_eq_ok_iff]
  exact ⟨fun ⟨s, h, _⟩ => ⟨s, h⟩, fun ⟨s, h⟩ => ⟨s, h, _, rfl⟩⟩

theorem aggregation_of_feed (h : a.feed row = .ok b) : b.aggregation = a.aggregation := by
  obtain ⟨s, -, h⟩ := bind_eq_ok_iff.mp h
  obtain rfl := Except.ok.inj h
  rfl

theorem aggregation_of_feedAll {rows : List Row} :
    ∀ {a b : Aggregator}, a.feedAll rows = .ok b → b.aggregation = a.aggregation := by
  induction rows with
  | nil =>
    intro a b h
    obtain rfl := Except.ok.inj h
    rfl
  | cons row rows ih =>
    -- One row keeps the aggregation, and the rows behind it keep it as well.
    intro a b h
    unfold feedAll at h
    rw [List.foldlM_cons] at h
    obtain ⟨a', ha', h⟩ := bind_eq_ok_iff.mp h
    rw [ih h, aggregation_of_feed ha']

theorem feedAll_append_singleton (a : Aggregator) (rows : List Row) (row : Row) :
    a.feedAll (rows ++ [row]) = a.feedAll rows >>= (·.feed row) := by
  unfold feedAll
  rw [List.foldlM_append]
  simp only [List.foldlM_cons, List.foldlM_nil, bind_pure]

/-- An aggregator that has seen no row has no result. -/
@[simp] theorem result_start (a : Aggregation) : (start a).result = none := by
  cases a <;> rfl

/-! ### Aggregators in their place -/

theorem feedInPlace_eq (a : Aggregator) (row : Row) :
    a.feedInPlace row =
      row.demand a.aggregation.columns a ⟨a.aggregation, a.aggregation.absorb row a.state⟩ := by
  unfold feedInPlace
  rw [Aggregation.update_runOn]
  unfold Row.demand
  cases row.absent? a.aggregation.columns <;> rfl

/-- **Feeding yields the aggregator that is left behind**, or the error. -/
theorem feed_eq_feedInPlace (a : Aggregator) (row : Row) :
    a.feed row = (a.feedInPlace row).1.map fun _ => (a.feedInPlace row).2 := by
  unfold feed feedInPlace
  rw [Aggregation.feed_eq_runOn]
  cases ((a.aggregation.update row).runOn a.state).1 <;> rfl

/-- A row that cannot be fed lacks a column, and the error says so. -/
theorem exists_eq_of_feed_eq_error {e : Error} (h : a.feed row = .error e) :
    ∃ c, e = .missingColumn c := by
  -- Feeding is the steps in place, and these are a demand for columns: it has no other error.
  rw [feed_eq_feedInPlace, feedInPlace_eq] at h
  cases hdemand : (row.demand a.aggregation.columns a
    ⟨a.aggregation, a.aggregation.absorb row a.state⟩).1 with
  | ok u =>
    rw [hdemand] at h
    cases h
  | error e' =>
    obtain ⟨⟨c, -, -, rfl⟩, -⟩ := Row.of_demand_eq_error hdemand
    rw [hdemand] at h
    exact ⟨c, (Except.error.inj h).symm⟩

/-- **Feeding fails exactly when a column is missing**, whatever has been gathered. -/
theorem exists_feedInPlace_error_iff :
    (∃ e, (a.feedInPlace row).1 = .error e) ↔ ∃ c ∈ a.aggregation.columns, ¬ row.contains c := by
  rw [feedInPlace_eq]
  exact Row.exists_demand_error_iff

/-- **A row that cannot be fed leaves the aggregator as it was.** -/
theorem feedInPlace_of_error {e : Error} (h : (a.feedInPlace row).1 = .error e) :
    (a.feedInPlace row).2 = a := by
  rw [feedInPlace_eq] at h ⊢
  exact (Row.of_demand_eq_error h).2

@[simp] theorem aggregation_feedInPlace (a : Aggregator) (row : Row) :
    (a.feedInPlace row).2.aggregation = a.aggregation := rfl

/-- **No other column counts**: rows that agree on the columns of the aggregation are the same to an
aggregator. -/
theorem feedInPlace_congr (h : row.AgreesOn a.aggregation.columns row') :
    a.feedInPlace row' = a.feedInPlace row := by
  rw [feedInPlace_eq, feedInPlace_eq, h.demand_eq, Aggregation.absorb_congr h]

end Aggregator

end MetricSeries
