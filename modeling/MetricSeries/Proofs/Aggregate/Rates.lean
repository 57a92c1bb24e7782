import Mathlib.Algebra.Order.BigOperators.Group.List
import Mathlib.Algebra.Ring.Int.Defs
import Mathlib.Data.List.Sort
import MetricSeries.Proofs.Aggregate.ExactSums
import MetricSeries.Proofs.SortedMap

/-!
# Rates per minute

A rate divides the counter of each system by the minutes that the rows of the system span, and adds
the quotients up. Of the rows, only two totals of each system count for it (`RateColumns.totals`):
the exact sum of its counter and the time its rows span, both over its complete rows. The time is a
sum that saturates, of spans that saturate as well and are never negative; as none of them takes
anything away, saturating on the way is saturating once in the end (`clampInt64_add`).

Which rate such totals have is said by definition (`Totals.HasRate`). The invariant of a run is that
the aggregator holds the totals of just the systems that have come up (`RateColumns.Gathers`). The
main result is `RateColumns.feedAll_rate`, with what follows from it for the order of the rows and
for a row that is cut in two.
-/

namespace MetricSeries

open Fallible

/-! ### Totals of the systems -/

/-- The sum of a counter and the milliseconds spanned, for each system. -/
@[ext] structure Totals where
  count : Int64 → Int
  time : Int64 → Int

/-- **The rate that totals have**: none when no system spans any time, and otherwise the sum of the
rates of the systems that do, in ascending order of the systems. -/
inductive Totals.HasRate (t : Totals) : Option Number → Prop where
  | blank (idle : ∀ y, ¬ 0 < t.time y) : HasRate t none
  | rate {systems : List Int64} (ne_nil : systems ≠ []) (ascending : systems.Pairwise (· < ·))
      (mem_iff : ∀ y, y ∈ systems ↔ 0 < t.time y) :
      HasRate t (some (.float (systems.foldl (fun rate y =>
        rate + Float.ofInt (t.count y) / (Float.ofInt (t.time y) / 60000.0)) 0.0)))

/-- **Totals have one rate.** -/
theorem Totals.HasRate.unique {t : Totals} {result result' : Option Number} (h : t.HasRate result)
    (h' : t.HasRate result') : result = result' := by
  cases h with
  | blank idle =>
    cases h' with
    | blank => rfl
    | rate ne_nil _ mem_iff =>
      obtain ⟨y, hy⟩ := List.exists_mem_of_ne_nil _ ne_nil
      exact absurd ((mem_iff y).mp hy) (idle y)
  | rate ne_nil ascending mem_iff =>
    cases h' with
    | blank idle =>
      obtain ⟨y, hy⟩ := List.exists_mem_of_ne_nil _ ne_nil
      exact absurd ((mem_iff y).mp hy) (idle y)
    | rate _ ascending' mem_iff' =>
      -- The systems are the same, and there is one ascending order of them.
      rw [ascending.eq_of_mem_iff ascending' fun y => (mem_iff y).trans (mem_iff' y).symm]

/-- The columns that a rate reads. -/
structure RateColumns where
  counter : String
  startTime : String
  endTime : String
  system : String
  deriving DecidableEq, Repr

namespace RateColumns

variable {c : RateColumns} {row : Row} {rows rows' : List Row} {y : Int64}

def aggregation (c : RateColumns) : Aggregation :=
  .naturalPerMinute c.counter c.startTime c.endTime c.system

/-- **A row can be read for a rate** when it carries the columns and holds an integer, or NULL, as
its counter. The other cells are read as integers, whatever they are. -/
def Reads (c : RateColumns) (row : Row) : Prop :=
  row.holdsInteger c.counter = true ∧ ∀ x ∈ c.aggregation.columns, row.contains x

instance (c : RateColumns) (row : Row) : Decidable (c.Reads row) :=
  inferInstanceAs (Decidable (_ ∧ _))

/-- The milliseconds that a row spans, no more than the largest integer of 64 bits and not less than
zero. -/
def elapsed (c : RateColumns) (row : Row) : Int :=
  match row.integer? c.startTime, row.integer? c.endTime with
  | some first, some last => max 0 (clampInt64 (last.toInt - first.toInt))
  | _, _ => 0

def rowsOf (c : RateColumns) (y : Int64) (rows : List Row) : List Row :=
  rows.filter fun row => row.integer? c.system = some y

/-- The totals of the systems over rows that are all complete. -/
def totalsOver (c : RateColumns) (rows : List Row) : Totals where
  count y := columnSum c.counter (c.rowsOf y rows)
  time y := min (Text.int64Bound - 1) ((c.rowsOf y rows).map c.elapsed).sum

/-- **The totals of the systems**, over their complete rows. -/
def totals (c : RateColumns) (rows : List Row) : Totals :=
  c.totalsOver (c.aggregation.completeRows rows)

/-- The rows that count for a system. -/
def countedRows (c : RateColumns) (z : Int64) (rows : List Row) : List Row :=
  c.rowsOf z (c.aggregation.completeRows rows)

theorem totals_count (c : RateColumns) (rows : List Row) (z : Int64) :
    (c.totals rows).count z = columnSum c.counter (c.countedRows z rows) := rfl

theorem totals_time (c : RateColumns) (rows : List Row) (z : Int64) :
    (c.totals rows).time z =
      min (Text.int64Bound - 1) ((c.countedRows z rows).map c.elapsed).sum := rfl

theorem countedRows_append (c : RateColumns) (z : Int64) (rows rows' : List Row) :
    c.countedRows z (rows ++ rows') = c.countedRows z rows ++ c.countedRows z rows' := by
  unfold countedRows rowsOf Aggregation.completeRows
  rw [List.filter_append, List.filter_append]

theorem elapsed_nonneg (c : RateColumns) (row : Row) : 0 ≤ c.elapsed row := by
  unfold elapsed
  split
  · exact Int.le_max_left _ _
  · exact Int.le_refl 0

theorem sum_elapsed_nonneg (c : RateColumns) (rows : List Row) : 0 ≤ (rows.map c.elapsed).sum :=
  List.sum_nonneg fun _ h => by
    obtain ⟨row, -, rfl⟩ := List.mem_map.mp h
    exact c.elapsed_nonneg row

/-- The order of the rows does not count for the totals. -/
theorem totals_perm (c : RateColumns) (h : rows.Perm rows') : c.totals rows = c.totals rows' := by
  have hof : ∀ y, (c.countedRows y rows).Perm (c.countedRows y rows') :=
    fun y => (c.aggregation.completeRows_perm h).filter _
  ext y
  · exact columnSum_perm (hof y)
  · exact congrArg (min _) ((hof y).map c.elapsed).sum_eq

/-! ### One row -/

/-- **Saturating on the way is saturating once in the end**, for amounts that are not negative. -/
theorem clampInt64_add {sum amount : Int} (hsum : 0 ≤ sum) (hamount : 0 ≤ amount) :
    clampInt64 (min (Text.int64Bound - 1) sum + amount) =
      min (Text.int64Bound - 1) (sum + amount) := by
  unfold clampInt64 Text.int64Bound
  omega

theorem rowsOf_append_singleton (c : RateColumns) (y : Int64) (rows : List Row) (row : Row) :
    c.rowsOf y (rows ++ [row]) =
      c.rowsOf y rows ++ if row.integer? c.system = some y then [row] else [] := by
  unfold rowsOf
  rw [List.filter_append, List.filter_singleton]
  simp

/-- The totals of one system as an aggregator keeps them. -/
def totalOf (c : RateColumns) (rows : List Row) (y : Int64) : SystemTotal :=
  ⟨.int ((c.totalsOver rows).count y), (c.totalsOver rows).time y⟩

/-- A system without rows has the totals that every system starts with. -/
theorem totalOf_of_nil (h : c.rowsOf y rows = []) : c.totalOf rows y = {} := by
  unfold totalOf totalsOver
  simp only [h]
  rfl

/-- **A complete row of a system adds to the totals of the system.** -/
theorem totalOf_append_singleton (hlength : rows.length < UInt64.size)
    (hsystem : row.integer? c.system = some y) {n first last : Int64}
    (hn : row.integer? c.counter = some n) (hfirst : row.integer? c.startTime = some first)
    (hlast : row.integer? c.endTime = some last) :
    (c.totalOf rows y).add (.int n) first last = c.totalOf (rows ++ [row]) y := by
  have hof : c.rowsOf y (rows ++ [row]) = c.rowsOf y rows ++ [row] := by
    rw [rowsOf_append_singleton, if_pos hsystem]
  have hlength' : (c.rowsOf y rows).length < UInt64.size :=
    Nat.lt_of_le_of_lt (List.length_filter_le _ _) hlength
  have helapsed : c.elapsed row = max 0 (clampInt64 (last.toInt - first.toInt)) := by
    unfold elapsed
    rw [hfirst, hlast]
  -- The count gains one exact summand, and clamping after each row is clamping once in the end, as
  -- no time is negative.
  unfold totalOf totalsOver SystemTotal.add
  dsimp only
  rw [hof, WideSum.add_columnSum hlength' hn, List.map_append, List.sum_append, List.map_singleton,
    List.sum_singleton, ← helapsed,
    clampInt64_add (c.sum_elapsed_nonneg _) (c.elapsed_nonneg row)]

/-! ### What is gathered -/

/-- **What has been gathered** from complete rows: the totals of the systems that have come up, and
of no other. -/
def Gathers (c : RateColumns) (rows : List Row) (r : Rate) : Prop :=
  ∀ y, r.get? y = if c.rowsOf y rows = [] then none else some (c.totalOf rows y)

variable {r : Rate}

theorem Gathers.getD_eq (h : c.Gathers rows r) (y : Int64) :
    (r.get? y).getD {} = c.totalOf rows y := by
  rw [h y]
  by_cases hnil : c.rowsOf y rows = []
  · rw [if_pos hnil, totalOf_of_nil hnil]
    rfl
  · rw [if_neg hnil, Option.getD_some]

/-- **One complete row keeps what is gathered in step with the rows.** -/
theorem Gathers.absorb (h : c.Gathers rows r) (hlength : rows.length < UInt64.size)
    (hinteger : row.holdsInteger c.counter = true)
    (hcomplete : row.isComplete c.aggregation.columns = true) :
    c.Gathers (rows ++ [row]) (c.aggregation.absorb row r) := by
  have hcells : ∀ x ∈ c.aggregation.columns, ∃ n, row.integer? x = some n := fun x hx =>
    Row.exists_integer_of_isComplete hcomplete hx
  simp only [aggregation, Aggregation.columns, List.forall_mem_cons] at hcells
  obtain ⟨⟨n, hn⟩, ⟨first, hfirst⟩, ⟨last, hlast⟩, ⟨y, hy⟩, -⟩ := hcells
  have habsorb : c.aggregation.absorb row r =
      r.insert y (c.totalOf (rows ++ [row]) y) := by
    change Rate.add r (row.cell? c.counter) (row.integer? c.startTime) (row.integer? c.endTime)
      (row.integer? c.system) = _
    rw [Row.cell?_of_holdsInteger hinteger hn, hfirst, hlast, hy]
    unfold Rate.add
    dsimp only
    rw [h.getD_eq y, totalOf_append_singleton hlength hy hn hfirst hlast]
  intro z
  rw [habsorb, SortedMap.get?_insert, rowsOf_append_singleton, hy]
  by_cases hz : z = y
  · -- The system of the row has come up now.
    subst hz
    rw [if_pos rfl, if_pos rfl,
      if_neg (List.append_ne_nil_of_right_ne_nil _ (List.cons_ne_nil _ _))]
  · -- The other systems keep their rows, and so their totals.
    have hne : ¬ (some y = some z) := fun h => hz (Option.some.inj h).symm
    have hof : c.rowsOf z (rows ++ [row]) = c.rowsOf z rows := by
      rw [rowsOf_append_singleton, hy, if_neg hne, List.append_nil]
    have htotal : c.totalOf (rows ++ [row]) z = c.totalOf rows z := by
      unfold totalOf totalsOver
      simp only [hof]
    rw [if_neg hz, if_neg hne, List.append_nil, htotal]
    exact h z

/-! ### Results -/

theorem time_pos_of_mem (h : 0 < (c.totalsOver rows).time y) : c.rowsOf y rows ≠ [] := by
  intro hnil
  simp only [totalsOver, hnil, List.map_nil, List.sum_nil] at h
  exact absurd h (by decide)

/-- The systems that have been gathered are those that have a row. -/
theorem Gathers.mem_keys_iff (h : c.Gathers rows r) : y ∈ r.keys ↔ c.rowsOf y rows ≠ [] := by
  rw [SortedMap.mem_keys_iff, h y]
  by_cases hnil : c.rowsOf y rows = []
  · simp [hnil]
  · simp [hnil]

/-- What is listed for the systems is their totals, in the order of the systems. -/
theorem Gathers.values_eq (h : c.Gathers rows r) : r.values = r.keys.map (c.totalOf rows) := by
  unfold SortedMap.values SortedMap.keys
  rw [List.map_map]
  refine List.map_congr_left fun e he => ?_
  have hget := SortedMap.get?_eq_some_iff.mpr he
  rw [h e.1] at hget
  -- A key of the totals has rows: without any the lookup would be empty.
  by_cases hnil : c.rowsOf e.1 rows = []
  · rw [if_pos hnil] at hget
    cases hget
  · rw [if_neg hnil] at hget
    exact (Option.some.inj hget).symm

theorem pairwise_keys (r : Rate) : r.keys.Pairwise (· < ·) :=
  List.pairwise_map.mpr (r.increasing.imp Std.compare_eq_lt.mp)

/-- The totals that span some time are those of certain systems, in their ascending order. -/
theorem Gathers.exists_systems (h : c.Gathers rows r) :
    ∃ systems : List Int64, systems.Pairwise (· < ·) ∧
      (∀ y, y ∈ systems ↔ 0 < (c.totalsOver rows).time y) ∧
      (r.values.filter fun t => 0 < t.elapsed) = systems.map (c.totalOf rows) := by
  refine ⟨r.keys.filter fun y => 0 < (c.totalsOver rows).time y, (pairwise_keys r).filter _,
    fun y => ?_, ?_⟩
  · rw [List.mem_filter, decide_eq_true_eq, h.mem_keys_iff, and_iff_right_of_imp time_pos_of_mem]
  · rw [h.values_eq, List.filter_map]
    rfl

/-- **The result of what is gathered is the rate of the totals.** -/
theorem Gathers.hasRate (h : c.Gathers rows r) : (c.totalsOver rows).HasRate (Rate.result r) := by
  obtain ⟨systems, ascending, mem_iff, htimed⟩ := h.exists_systems
  unfold Rate.result
  rw [htimed]
  -- A rate starts from its first system with some time, so that having none is a case of its own.
  cases systems with
  | nil => exact .blank fun y hy => List.not_mem_nil ((mem_iff y).mpr hy)
  | cons y ys =>
    have hrate := Totals.HasRate.rate (List.cons_ne_nil y ys) ascending mem_iff
    rw [List.map_cons]
    dsimp only
    rw [← List.map_cons, List.foldl_map]
    exact hrate

/-- **The result is the rate of the totals**, for no more than two to the power of 64 rows. -/
theorem exists_feedAll_rate (hlength : rows.length ≤ UInt64.size)
    (hrows : ∀ row ∈ rows, c.Reads row) :
    ∃ s, (Aggregator.start c.aggregation).feedAll rows = .ok s ∧
      (c.totals rows).HasRate s.result := by
  have hlength' := (c.aggregation.length_completeRows_le rows).trans hlength
  obtain ⟨r, hr, hgathers⟩ := Aggregator.exists_feedAll (a := c.aggregation) (P := c.Gathers)
    (fun row hrow => (hrows row hrow).2) (fun _ => rfl)
    fun used row r hrow hcomplete hused hr =>
      hr.absorb (Nat.lt_of_lt_of_le hused hlength') (hrows row hrow).1 hcomplete
  exact ⟨_, hr, hgathers.hasRate⟩

/-! ### A row cut in two -/

/-- **What a row counts**: so much, from one instant to another, for a system. The count is an
integer of the row, and the others may be read off doubles. -/
structure Counts (c : RateColumns) (row : Row) (n first last y : Int64) : Prop where
  count : row.get? c.counter = some (some (.int n))
  first : row.integer? c.startTime = some first
  last : row.integer? c.endTime = some last
  system : row.integer? c.system = some y

variable {n first last : Int64}

theorem Counts.integer (h : c.Counts row n first last y) : row.integer? c.counter = some n := by
  unfold Row.integer? Row.cell?
  rw [h.count]
  rfl

theorem Counts.reads (h : c.Counts row n first last y) : c.Reads row := by
  refine ⟨?_, ?_⟩
  · unfold Row.holdsInteger
    rw [h.count]
  · simp only [aggregation, Aggregation.columns, List.forall_mem_cons]
    exact ⟨Row.contains_of_integer? h.integer, Row.contains_of_integer? h.first,
      Row.contains_of_integer? h.last, Row.contains_of_integer? h.system, List.forall_mem_nil _⟩

theorem Counts.isComplete (h : c.Counts row n first last y) :
    row.isComplete c.aggregation.columns = true := by
  have hcell : ∀ {x : String} {n : Int64}, row.integer? x = some n → (row.cell? x).isSome := by
    intro x n hx
    rw [Row.integer?_eq_map] at hx
    obtain ⟨cell, hcell, -⟩ := Option.map_eq_some_iff.mp hx
    rw [hcell, Option.isSome_some]
  rw [Row.isComplete_iff]
  simp only [aggregation, Aggregation.columns, List.forall_mem_cons]
  exact ⟨hcell h.integer, hcell h.first, hcell h.last, hcell h.system, List.forall_mem_nil _⟩

theorem Counts.elapsed_eq (h : c.Counts row n first last y) :
    c.elapsed row = max 0 (clampInt64 (last.toInt - first.toInt)) := by
  unfold elapsed
  rw [h.first, h.last]

theorem Counts.countedRows_cons (h : c.Counts row n first last y) (z : Int64) (rows : List Row) :
    c.countedRows z (row :: rows) =
      if z = y then row :: c.countedRows z rows else c.countedRows z rows := by
  unfold countedRows rowsOf Aggregation.completeRows
  rw [List.filter_cons_of_pos h.isComplete, List.filter_cons, h.system]
  simp only [decide_eq_true_eq, Option.some.injEq, @eq_comm _ z]

/-- A time cut in two is the two times together, but for what saturates in the end. -/
theorem min_elapsed_cut {before after : Int} (hbefore : 0 ≤ before) (hafter : 0 ≤ after)
    {s m e : Int64} (hsm : s ≤ m) (hme : m ≤ e) :
    min (Text.int64Bound - 1) (before + (max 0 (clampInt64 (m.toInt - s.toInt)) +
        (max 0 (clampInt64 (e.toInt - m.toInt)) + after))) =
      min (Text.int64Bound - 1) (before + (max 0 (clampInt64 (e.toInt - s.toInt)) + after)) := by
  rw [Int64.le_iff_toInt_le] at hsm hme
  unfold clampInt64 Text.int64Bound
  omega

/-- **A row cut in two** has the same totals. -/
theorem totals_cut {before after : List Row} {row₁ row₂ : Row} {n n₁ n₂ s m e : Int64}
    (hrow : c.Counts row n s e y) (hrow₁ : c.Counts row₁ n₁ s m y)
    (hrow₂ : c.Counts row₂ n₂ m e y) (hn : n₁.toInt + n₂.toInt = n.toInt) (hsm : s ≤ m)
    (hme : m ≤ e) :
    c.totals (before ++ row₁ :: row₂ :: after) = c.totals (before ++ row :: after) := by
  ext z
  · rw [totals_count, totals_count, countedRows_append, countedRows_append, hrow.countedRows_cons,
      hrow₁.countedRows_cons, hrow₂.countedRows_cons]
    -- Only the totals of the system of the row can change, and they gain both counts instead of
    -- one.
    by_cases hz : z = y
    · rw [if_pos hz, if_pos hz, if_pos hz]
      simp only [columnSum_append, columnSum_cons hrow.integer, columnSum_cons hrow₁.integer,
        columnSum_cons hrow₂.integer, ← hn, Int.add_assoc]
    · rw [if_neg hz, if_neg hz, if_neg hz]
  · rw [totals_time, totals_time, countedRows_append, countedRows_append, hrow.countedRows_cons,
      hrow₁.countedRows_cons, hrow₂.countedRows_cons]
    -- In the same way its time gains both parts.
    by_cases hz : z = y
    · rw [if_pos hz, if_pos hz, if_pos hz]
      simp only [List.map_append, List.map_cons, List.sum_append, List.sum_cons, hrow.elapsed_eq,
        hrow₁.elapsed_eq, hrow₂.elapsed_eq]
      exact min_elapsed_cut (c.sum_elapsed_nonneg _) (c.sum_elapsed_nonneg _) hsm hme
    · rw [if_neg hz, if_neg hz, if_neg hz]

/-! ### What counts for a rate -/

/-- A system whose rows span some time is the system of one of them. -/
theorem mem_systems_of_time_pos (h : 0 < (c.totals rows).time y) :
    y ∈ integersIn c.system rows := by
  obtain ⟨row, hrow⟩ := List.exists_mem_of_ne_nil _ (time_pos_of_mem h)
  obtain ⟨hcomplete, hsystem⟩ := List.mem_filter.mp hrow
  exact List.mem_filterMap.mpr
    ⟨row, (Aggregation.mem_completeRows_iff.mp hcomplete).1, of_decide_eq_true hsystem⟩

/-- Rows with the same totals have the same result. -/
theorem result_eq_of_totals (hlength : rows.length ≤ UInt64.size)
    (hlength' : rows'.length ≤ UInt64.size) (hrows : ∀ row ∈ rows, c.Reads row)
    (hrows' : ∀ row ∈ rows', c.Reads row) (htotals : c.totals rows' = c.totals rows) :
    ((Aggregator.start c.aggregation).feedAll rows').map Aggregator.result =
      ((Aggregator.start c.aggregation).feedAll rows).map Aggregator.result := by
  obtain ⟨s, hs, hrate⟩ := exists_feedAll_rate hlength hrows
  obtain ⟨s', hs', hrate'⟩ := exists_feedAll_rate hlength' hrows'
  rw [hs, hs']
  rw [htotals] at hrate'
  exact congrArg Except.ok (hrate'.unique hrate)

/-- **Rates depend on the totals of the systems only.** Let fewer than two to the power of 64 rows
be read for a rate per minute.

* An aggregator takes all of the rows, and its result is the rate that the totals of the systems
  over the complete rows have by definition.
* Other rows with the same totals have the same result.
* So have the rows in another order.
* So have the rows with one of them cut in two: for the same system, with counts that add up to its
  own, up to an instant within its time and from there on. -/
theorem feedAll_rate (c : RateColumns) (rows : List Row) (hlength : rows.length < UInt64.size)
    (hrows : ∀ row ∈ rows, c.Reads row) :
    (∃ s, (Aggregator.start c.aggregation).feedAll rows = .ok s ∧
      (c.totals rows).HasRate s.result) ∧
    (∀ rows', rows'.length < UInt64.size → (∀ row ∈ rows', c.Reads row) →
      c.totals rows' = c.totals rows →
      ((Aggregator.start c.aggregation).feedAll rows').map Aggregator.result =
        ((Aggregator.start c.aggregation).feedAll rows).map Aggregator.result) ∧
    (∀ rows', rows'.Perm rows →
      ((Aggregator.start c.aggregation).feedAll rows').map Aggregator.result =
        ((Aggregator.start c.aggregation).feedAll rows).map Aggregator.result) ∧
    ∀ before row after row₁ row₂ n n₁ n₂ s m e y, rows = before ++ row :: after →
      c.Counts row n s e y → c.Counts row₁ n₁ s m y → c.Counts row₂ n₂ m e y →
      n₁.toInt + n₂.toInt = n.toInt → s ≤ m → m ≤ e →
      ((Aggregator.start c.aggregation).feedAll (before ++ row₁ :: row₂ :: after)).map
          Aggregator.result =
        ((Aggregator.start c.aggregation).feedAll rows).map Aggregator.result := by
  have hle := Nat.le_of_lt hlength
  refine ⟨exists_feedAll_rate hle hrows, fun rows' hlength' hrows' htotals => ?_,
    fun rows' hperm => ?_, ?_⟩
  · exact result_eq_of_totals hle (Nat.le_of_lt hlength') hrows hrows' htotals
  · exact result_eq_of_totals hle (hperm.length_eq ▸ hle) hrows
      (fun row hrow => hrows row (hperm.subset hrow)) (c.totals_perm hperm)
  · rintro before row after row₁ row₂ n n₁ n₂ s m e y rfl hrow hrow₁ hrow₂ hn hsm hme
    -- The cut leaves one row more, which the totals have room for.
    refine result_eq_of_totals hle ?_ hrows ?_ (totals_cut hrow hrow₁ hrow₂ hn hsm hme)
    · simp only [List.length_append, List.length_cons] at hlength ⊢
      omega
    · simp only [List.forall_mem_append, List.forall_mem_cons] at hrows ⊢
      exact ⟨hrows.1, hrow₁.reads, hrow₂.reads, hrows.2.2⟩

/-- A rate of hits under the usual names of the other columns. -/
def hitRate : RateColumns := ⟨"Hits", "StartTime", "EndTime", "SystemID"⟩

/-- A row of hits with any cells for the time they took and for the system. -/
def hitCells (hits : Option Int64) (first last system : Option Cell) : Row :=
  SortedMap.ofList [("Hits", hits.map .int), ("StartTime", first), ("EndTime", last),
    ("SystemID", system)]

def hitRow (hits : Option Int64) (first last system : Int64) : Row :=
  hitCells hits (some (.int first)) (some (.int last)) (some (.int system))

/-- Rows of four systems in turn: two minutes and a row without hits, a time that leaves 64 bits, no
time at all and a time that runs backwards. Then a minute of the first system that is written in
doubles, and hits since an unknown instant. -/
def hitRows : List Row :=
  [hitRow (some 30) 0 60000 1, hitRow (some 5) Int64.minValue Int64.maxValue (-2),
    hitRow none 60000 120000 1, hitRow (some 8) 7 7 2, hitRow (some 12) 60000 120000 1,
    hitRow (some 9) 60000 0 3,
    hitCells (some 6) (some (.float 120000.75)) (some (.float 180000.25)) (some (.float 1.5)),
    hitCells (some 7) none (some (.int 60000)) (some (.int 2))]

theorem hasRate_hitRows : (hitRate.totals hitRows).HasRate (some (.float
    (0.0 + Float.ofInt 5 / (Float.ofInt 9223372036854775807 / 60000.0) +
      Float.ofInt 48 / (Float.ofInt 180000 / 60000.0)))) := by
  have hsystems : ((integersIn hitRate.system hitRows).filter
      fun y => 0 < (hitRate.totals hitRows).time y) = [1, -2, 1, 1, 1] := by decide +kernel
  obtain ⟨hcount, hcount'⟩ : (hitRate.totals hitRows).count (-2) = 5 ∧
      (hitRate.totals hitRows).count 1 = 48 := by decide +kernel
  obtain ⟨htime, htime'⟩ : (hitRate.totals hitRows).time (-2) = 9223372036854775807 ∧
      (hitRate.totals hitRows).time 1 = 180000 := by decide +kernel
  -- Only a system of one of the rows can span some time, so it is enough to look at those.
  have htimed : ∀ y, y ∈ ([-2, 1] : List Int64) ↔ 0 < (hitRate.totals hitRows).time y := by
    refine fun y => ⟨fun hy => ?_, fun hy => ?_⟩
    · simp only [List.mem_cons, List.not_mem_nil, or_false] at hy
      rcases hy with rfl | rfl
      · rw [htime]
        decide
      · rw [htime']
        decide
    · have hmem : y ∈ (integersIn hitRate.system hitRows).filter
          fun y => 0 < (hitRate.totals hitRows).time y :=
        List.mem_filter.mpr ⟨mem_systems_of_time_pos hy, decide_eq_true hy⟩
      rw [hsystems] at hmem
      simp only [List.mem_cons, List.not_mem_nil, or_false] at hmem ⊢
      rcases hmem with h | h | h | h | h
      · exact .inr h
      · exact .inl h
      · exact .inr h
      · exact .inr h
      · exact .inr h
  have hrate := Totals.HasRate.rate (List.cons_ne_nil (-2) [1]) (by decide) htimed
  rw [List.foldl_cons, List.foldl_cons, List.foldl_nil, hcount, hcount', htime, htime'] at hrate
  exact hrate

/-- Of the four systems two span some time, and the smaller one comes first. The minute in doubles
counts for the first system like a minute in integers, the hits since an unknown instant do not
count. The order of the rows and a cut through the second minute of the first system do not count
either. -/
theorem feedAll_rate_hitRows :
    (∃ s, (Aggregator.start hitRate.aggregation).feedAll hitRows = .ok s ∧
      s.result = some (.float (0.0 + Float.ofInt 5 / (Float.ofInt 9223372036854775807 / 60000.0) +
        Float.ofInt 48 / (Float.ofInt 180000 / 60000.0)))) ∧
    ((Aggregator.start hitRate.aggregation).feedAll hitRows.reverse).map Aggregator.result =
      ((Aggregator.start hitRate.aggregation).feedAll hitRows).map Aggregator.result ∧
    ((Aggregator.start hitRate.aggregation).feedAll (hitRows.take 4 ++
        hitRow (some 20) 60000 60001 1 :: hitRow (some (-8)) 60001 120000 1 ::
          hitRows.drop 5)).map Aggregator.result =
      ((Aggregator.start hitRate.aggregation).feedAll hitRows).map Aggregator.result := by
  have hreads : ∀ row ∈ hitRows, hitRate.Reads row := by decide +kernel
  obtain ⟨⟨s, hs, hrate⟩, -, horder, hcut⟩ :=
    feedAll_rate hitRate hitRows (by decide) hreads
  refine ⟨⟨s, hs, hrate.unique hasRate_hitRows⟩, horder _ (List.reverse_perm hitRows), ?_⟩
  exact hcut (hitRows.take 4) (hitRow (some 12) 60000 120000 1) (hitRows.drop 5) _ _ 12 20 (-8)
    60000 60001 120000 1 rfl ⟨rfl, rfl, rfl, rfl⟩ ⟨rfl, rfl, rfl, rfl⟩ ⟨rfl, rfl, rfl, rfl⟩
    (by decide) (by decide) (by decide)

end RateColumns

end MetricSeries
