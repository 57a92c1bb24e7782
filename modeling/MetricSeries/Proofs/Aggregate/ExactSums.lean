import MetricSeries.Proofs.Aggregate.CompleteRows

/-!
# Exact sums

A column of integers is summed up in an integer of 128 bits. Here is what the sum is by definition
(`exactSum`), and that the running total is just that: as long as fewer than two to the power of 64
integers of 64 bits have been added, one more of them keeps the total exact (`WideSum.add_exact`).

Rows are what is summed, and a row that is NULL in the column is no summand: `integersIn` is the
list of the integers in a column, and `columnSum` their sum.
-/

namespace MetricSeries

variable {column : String} {row : Row} {rows rows' : List Row} {ns ns' : List Int64}

/-! ### The integers in a column -/

/-- **A row holds an integer** in a column when its cell there is an integer or NULL, and no
double. -/
def Row.holdsInteger (column : String) (row : Row) : Bool :=
  match row.get? column with
  | some none => true
  | some (some (.int _)) => true
  | _ => false

theorem Row.contains_of_holdsInteger (h : row.holdsInteger column = true) :
    row.contains column := by
  unfold SortedMap.contains
  unfold holdsInteger at h
  cases hget : row.get? column with
  | none =>
    rw [hget] at h
    cases h
  | some cell => rfl

/-- Nothing is lost when such a cell is read as an integer. -/
theorem Row.cell?_of_holdsInteger (h : row.holdsInteger column = true) {n : Int64}
    (hn : row.integer? column = some n) : row.cell? column = some (.int n) := by
  unfold holdsInteger at h
  unfold integer? cell? at hn
  unfold cell?
  -- Of the cells a column may hold, NULL has no integer and a double is excluded.
  cases hget : row.get? column with
  | none =>
    rw [hget] at h
    cases h
  | some cell =>
    rw [hget, Option.getD_some] at hn
    rw [hget] at h
    cases cell with
    | none => cases hn
    | some cell =>
      cases cell with
      | int m => exact congrArg (fun n => some (Cell.int n)) (Option.some.inj hn)
      | float x => cases h

/-- **The integers in a column**, one for each cell that is not NULL. A double counts as its integer
view, which is its number without the fraction, within 64 bits (`doubleView`). -/
def integersIn (column : String) (rows : List Row) : List Int64 :=
  rows.filterMap (·.integer? column)

theorem integersIn_append_singleton (column : String) (rows : List Row) (row : Row) :
    integersIn column (rows ++ [row]) = integersIn column rows ++ (row.integer? column).toList := by
  unfold integersIn
  rw [List.filterMap_append, List.filterMap_cons, List.filterMap_nil]
  cases row.integer? column with
  | none => rfl
  | some n => rfl

theorem length_integersIn_le (column : String) (rows : List Row) :
    (integersIn column rows).length ≤ rows.length :=
  List.length_filterMap_le _ _

/-! ### Their sum -/

/-- The exact sum of integers of 64 bits. -/
def exactSum : List Int64 → Int
  | [] => 0
  | n :: ns => n.toInt + exactSum ns

@[simp] theorem exactSum_cons (n : Int64) (ns : List Int64) :
    exactSum (n :: ns) = n.toInt + exactSum ns := rfl

theorem toInt_mem_range (n : Int64) : -Text.int64Bound ≤ n.toInt ∧ n.toInt < Text.int64Bound :=
  ⟨n.le_toInt, n.toInt_lt⟩

@[simp] theorem exactSum_append (ns ns' : List Int64) :
    exactSum (ns ++ ns') = exactSum ns + exactSum ns' := by
  induction ns with
  | nil => exact (Int.zero_add _).symm
  | cons n ns ih => rw [List.cons_append, exactSum_cons, exactSum_cons, ih, Int.add_assoc]

@[simp] theorem exactSum_singleton (n : Int64) : exactSum [n] = n.toInt := Int.add_zero _

/-- The order of the integers does not count for their sum. -/
theorem exactSum_perm (h : ns.Perm ns') : exactSum ns = exactSum ns' := by
  induction h with
  | nil => rfl
  | cons n _ ih => exact congrArg (n.toInt + ·) ih
  | swap n n' ns => exact Int.add_left_comm n'.toInt n.toInt (exactSum ns)
  | trans _ _ ih ih' => exact ih.trans ih'

/-- A sum is no further from zero than its integers reach together. -/
theorem exactSum_mem_range (ns : List Int64) :
    -(ns.length * Text.int64Bound) ≤ exactSum ns ∧
      exactSum ns ≤ ns.length * (Text.int64Bound - 1) := by
  -- Each summand adds at most one 64-bit range to the bounds.
  induction ns with
  | nil => decide
  | cons n ns ih =>
    obtain ⟨hlow, hhigh⟩ := toInt_mem_range n
    rw [exactSum_cons, List.length_cons]
    unfold Text.int64Bound at *
    omega

/-- The exact sum of the integers in a column. -/
def columnSum (column : String) (rows : List Row) : Int := exactSum (integersIn column rows)

theorem columnSum_perm (h : rows.Perm rows') : columnSum column rows = columnSum column rows' :=
  exactSum_perm (h.filterMap _)

theorem columnSum_append (column : String) (rows rows' : List Row) :
    columnSum column (rows ++ rows') = columnSum column rows + columnSum column rows' := by
  unfold columnSum integersIn
  rw [List.filterMap_append, exactSum_append]

theorem columnSum_cons {n : Int64} (hn : row.integer? column = some n) (rows : List Row) :
    columnSum column (row :: rows) = n.toInt + columnSum column rows := by
  unfold columnSum integersIn
  rw [List.filterMap_cons, hn]
  rfl

/-! ### The running total -/

/-- **One integer keeps the total exact**, unless two to the power of 64 have been added already. -/
theorem WideSum.add_exact (h : ns.length < UInt64.size) (n : Int64) :
    (int (exactSum ns)).add (.int n) = int (exactSum (ns ++ [n])) := by
  have hwide : isWide (exactSum ns + n.toInt) = true := by
    -- With its own share, the integer does not take the sum beyond what as many of them can reach.
    have hrange := exactSum_mem_range (ns ++ [n])
    rw [exactSum_append, exactSum_singleton, List.length_append, List.length_singleton] at hrange
    unfold UInt64.size at h
    unfold isWide bound
    unfold Text.int64Bound at hrange
    rw [Bool.and_eq_true, decide_eq_true_eq, decide_eq_true_eq]
    omega
  unfold add
  dsimp only
  rw [if_pos hwide, exactSum_append, exactSum_singleton]

/-- The total of a column with the cell of one row more. -/
theorem WideSum.add_columnSum (h : rows.length < UInt64.size) {n : Int64}
    (hn : row.integer? column = some n) :
    (int (columnSum column rows)).add (.int n) = int (columnSum column (rows ++ [row])) := by
  unfold columnSum
  rw [add_exact (Nat.lt_of_le_of_lt (length_integersIn_le column rows) h),
    integersIn_append_singleton, hn, Option.toList_some]

end MetricSeries
