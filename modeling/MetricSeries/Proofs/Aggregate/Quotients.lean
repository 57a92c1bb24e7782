import MetricSeries.Proofs.Aggregate.ExactSums

/-!
# Quotients of sums

An average divides the sum of a column by the number of its rows; a natural average and a percentage
divide the sum of one column by the sum of another. These three aggregations are the kinds of a
`Fraction`. What a fraction yields is said by definition (`Fraction.value`): its sums are exact and
taken over the same rows, the complete ones, and there is no value without such rows or when the
denominator is zero.

The invariant of a run is that the totals and the counter of the aggregator are in step with the
complete rows so far (`Fraction.gathered`, `absorb_gathered`). The main result is
`Fraction.feedAll_value`: after any rows the result is the value of the complete ones among them,
and neither the order of these nor the other rows count.
-/

namespace MetricSeries

open Fallible

variable {row : Row} {rows rows' : List Row} {column numerator denominator : String}

/-! ### Values by definition -/

/-- The sum of a column over the number of rows; none without rows. -/
def meanOf (column : String) (rows : List Row) : Option Number :=
  if rows = [] then none
  else some (.float (Float.ofInt (columnSum column rows) / Float.ofNat rows.length))

/-- The sum of one column over the sum of another, times `scale`; none without rows, and none when
the denominator is zero. -/
def ratioOf (numerator denominator : String) (scale : Float) (rows : List Row) : Option Number :=
  if rows = [] ∨ columnSum denominator rows = 0 then none
  else some (.float (Float.ofInt (columnSum numerator rows) /
    Float.ofInt (columnSum denominator rows) * scale))

/-- An aggregation that divides the sum of a column, by the number of rows or by another sum. -/
inductive Fraction where
  | mean (column : String)
  | ratio (numerator denominator : String)
  /-- A hundred times the ratio. -/
  | percent (numerator denominator : String)
  deriving DecidableEq, Repr

namespace Fraction

def aggregation : Fraction → Aggregation
  | mean column => .average column
  | ratio numerator denominator => .naturalAverage numerator denominator
  | percent numerator denominator => .percent numerator denominator

/-- **The value of a fraction** over rows that are all complete. -/
def value (rows : List Row) : Fraction → Option Number
  | mean column => meanOf column rows
  | ratio numerator denominator => ratioOf numerator denominator 1.0 rows
  | percent numerator denominator => ratioOf numerator denominator 100.0 rows

end Fraction

theorem eq_nil_iff_of_perm (h : rows.Perm rows') : rows = [] ↔ rows' = [] := by
  rw [← List.length_eq_zero_iff, h.length_eq, List.length_eq_zero_iff]

theorem meanOf_perm (h : rows.Perm rows') : meanOf column rows = meanOf column rows' := by
  unfold meanOf
  simp only [eq_nil_iff_of_perm h, columnSum_perm h, h.length_eq]

theorem ratioOf_perm (h : rows.Perm rows') (scale : Float) :
    ratioOf numerator denominator scale rows = ratioOf numerator denominator scale rows' := by
  unfold ratioOf
  simp only [eq_nil_iff_of_perm h, columnSum_perm h]

/-- The order of the rows does not count for the value. -/
theorem Fraction.value_perm (f : Fraction) (h : rows.Perm rows') :
    f.value rows = f.value rows' := by
  cases f with
  | mean column => exact meanOf_perm h
  | ratio numerator denominator => exact ratioOf_perm h 1.0
  | percent numerator denominator => exact ratioOf_perm h 100.0

/-! ### What is gathered -/

namespace Mean

/-- The total of a column and the number of rows. -/
def exact (column : String) (rows : List Row) : Mean := ⟨.int (columnSum column rows), rows.length⟩

theorem result_exact (column : String) (rows : List Row) :
    (exact column rows).result = meanOf column rows := by
  unfold result meanOf exact
  simp only [List.length_eq_zero_iff]
  rfl

/-- **One row keeps total and counter in step.** -/
theorem add_exact (hlength : rows.length < UInt64.size) (hinteger : row.holdsInteger column = true)
    (hcomplete : row.isComplete [column] = true) :
    (exact column rows).add (row.cell? column) = exact column (rows ++ [row]) := by
  obtain ⟨n, hn⟩ := Row.exists_integer_of_isComplete hcomplete (List.mem_singleton_self column)
  rw [Row.cell?_of_holdsInteger hinteger hn]
  unfold add exact
  dsimp only
  rw [WideSum.add_columnSum hlength hn, List.length_append, List.length_singleton]

end Mean

namespace Quotient

/-- The totals of two columns and the number of rows that both are taken over. -/
def exact (numerator denominator : String) (rows : List Row) : Quotient :=
  ⟨.int (columnSum numerator rows), .int (columnSum denominator rows), rows.length⟩

theorem result_exact (numerator denominator : String) (scale : Float) (rows : List Row) :
    (exact numerator denominator rows).result scale =
      ratioOf numerator denominator scale rows := by
  unfold result ratioOf exact WideSum.isZero
  simp only [Bool.or_eq_true, decide_eq_true_eq, beq_iff_eq, List.length_eq_zero_iff]
  rfl

/-- **One row keeps both totals and the counter in step.** -/
theorem add_exact (hlength : rows.length < UInt64.size)
    (hinteger : ∀ c ∈ [numerator, denominator], row.holdsInteger c = true)
    (hcomplete : row.isComplete [numerator, denominator] = true) :
    (exact numerator denominator rows).add (row.cell? numerator) (row.cell? denominator) =
      exact numerator denominator (rows ++ [row]) := by
  have hnumerator : numerator ∈ [numerator, denominator] := List.mem_cons_self
  have hdenominator : denominator ∈ [numerator, denominator] :=
    List.mem_cons_of_mem _ List.mem_cons_self
  -- Neither cell is NULL, so that neither total moves without the other and the counter.
  obtain ⟨n, hn⟩ := Row.exists_integer_of_isComplete hcomplete hnumerator
  obtain ⟨d, hd⟩ := Row.exists_integer_of_isComplete hcomplete hdenominator
  rw [Row.cell?_of_holdsInteger (hinteger _ hnumerator) hn,
    Row.cell?_of_holdsInteger (hinteger _ hdenominator) hd]
  unfold add exact
  dsimp only
  rw [WideSum.add_columnSum hlength hn, WideSum.add_columnSum hlength hd, List.length_append,
    List.length_singleton]

end Quotient

namespace Fraction

variable {f : Fraction}

/-- **What has been gathered** from complete rows: their totals, and how many they are. -/
def gathered (rows : List Row) : (f : Fraction) → f.aggregation.State
  | mean column => Mean.exact column rows
  | ratio numerator denominator => Quotient.exact numerator denominator rows
  | percent numerator denominator => Quotient.exact numerator denominator rows

theorem result_gathered (f : Fraction) (rows : List Row) :
    f.aggregation.result (f.gathered rows) = f.value rows := by
  cases f with
  | mean column => exact Mean.result_exact column rows
  | ratio numerator denominator => exact Quotient.result_exact numerator denominator 1.0 rows
  | percent numerator denominator => exact Quotient.result_exact numerator denominator 100.0 rows

/-- **One complete row keeps what is gathered in step with the rows.** -/
theorem absorb_gathered (hlength : rows.length < UInt64.size)
    (hinteger : ∀ c ∈ f.aggregation.columns, row.holdsInteger c = true)
    (hcomplete : row.isComplete f.aggregation.columns = true) :
    f.aggregation.absorb row (f.gathered rows) = f.gathered (rows ++ [row]) := by
  -- The two ratios gather alike; their scale comes in with the result only.
  cases f with
  | mean column =>
    exact Mean.add_exact hlength (hinteger column (List.mem_singleton_self column)) hcomplete
  | ratio numerator denominator | percent numerator denominator =>
    exact Quotient.add_exact hlength hinteger hcomplete

theorem gathered_nil (f : Fraction) : f.gathered [] = f.aggregation.initial := by
  cases f <;> rfl

/-! ### Results -/

/-- **The result is the value of the complete rows**, as long as these are fewer than two to the
power of 64. -/
theorem exists_feedAll_value
    (hlength : (f.aggregation.completeRows rows).length < UInt64.size)
    (hrows : ∀ row ∈ rows, ∀ c ∈ f.aggregation.columns, row.holdsInteger c = true) :
    ∃ s, (Aggregator.start f.aggregation).feedAll rows = .ok s ∧
      s.result = f.value (f.aggregation.completeRows rows) := by
  obtain ⟨s, hs, hgathered⟩ := Aggregator.exists_feedAll (P := fun used s => s = f.gathered used)
    (fun row hrow c hc => Row.contains_of_holdsInteger (hrows row hrow c hc)) f.gathered_nil.symm
    fun used row s hrow hcomplete hused hs =>
      hs ▸ absorb_gathered (Nat.lt_trans hused hlength) (hrows row hrow) hcomplete
  exact ⟨_, hs, hgathered ▸ result_gathered f _⟩

/-- **Quotients are computed from exact sums.** Let fewer than two to the power of 64 rows carry the
columns of an average, a natural average or a percentage, with cells that are integers or NULL.

* An aggregator takes all of the rows, and its result is the value of the complete ones among them
  by definition: there is none exactly when there are no complete rows or when their denominator is
  zero, and otherwise it is the quotient of their exact sums.
* The complete rows alone count, and not their order: other rows have the same result if the
  complete ones among them are those of the first rows, in any order and with any other rows between
  them. -/
theorem feedAll_value (f : Fraction) (rows : List Row) (hlength : rows.length < UInt64.size)
    (hrows : ∀ row ∈ rows, ∀ c ∈ f.aggregation.columns, row.holdsInteger c = true) :
    (∃ s, (Aggregator.start f.aggregation).feedAll rows = .ok s ∧
      s.result = f.value (f.aggregation.completeRows rows)) ∧
    ∀ rows', (∀ row ∈ rows', ∀ c ∈ f.aggregation.columns, row.holdsInteger c = true) →
      (f.aggregation.completeRows rows').Perm (f.aggregation.completeRows rows) →
      ((Aggregator.start f.aggregation).feedAll rows').map Aggregator.result =
        ((Aggregator.start f.aggregation).feedAll rows).map Aggregator.result := by
  have hcomplete := Nat.lt_of_le_of_lt (f.aggregation.length_completeRows_le rows) hlength
  obtain ⟨s, hs, hvalue⟩ := exists_feedAll_value hcomplete hrows
  refine ⟨⟨s, hs, hvalue⟩, fun rows' hrows' hperm => ?_⟩
  -- The other list may be longer, but its complete rows are as many.
  obtain ⟨s', hs', hvalue'⟩ := exists_feedAll_value (hperm.length_eq ▸ hcomplete) hrows'
  rw [hs, hs']
  refine congrArg Except.ok ?_
  rw [hvalue, hvalue', f.value_perm hperm]

/-- A row with hits out of a total, either of which may be NULL. -/
def quotaRow (hits total : Option Int64) : Row :=
  SortedMap.ofList [("Hits", hits.map .int), ("Total", total.map .int)]

/-- The largest integer twice, out of four, and two rows of which only one cell is there. -/
def quotaRows : List Row :=
  [quotaRow (some Int64.maxValue) (some 1), quotaRow none (some 5),
    quotaRow (some Int64.maxValue) (some 3), quotaRow (some 7) none]

/-- The numerator leaves 64 bits, and rows with one cell skew neither side. A further row brings the
denominator to zero, and then there is no percentage; the complete rows backwards and without the
others have the same one as all. -/
theorem feedAll_value_quota :
    (∃ s, (Aggregator.start (.percent "Hits" "Total")).feedAll quotaRows = .ok s ∧
      s.result = some (.float (Float.ofInt 18446744073709551614 / Float.ofInt 4 * 100.0))) ∧
    (∃ s, (Aggregator.start (.percent "Hits" "Total")).feedAll
        (quotaRows ++ [quotaRow (some 1) (some (-4))]) = .ok s ∧ s.result = none) ∧
    ((Aggregator.start (.percent "Hits" "Total")).feedAll
        [quotaRow (some Int64.maxValue) (some 3), quotaRow (some Int64.maxValue) (some 1)]).map
        Aggregator.result =
      ((Aggregator.start (.percent "Hits" "Total")).feedAll quotaRows).map Aggregator.result := by
  -- The rows with NULL in one of the columns count for neither sum.
  have hcomplete : (percent "Hits" "Total").aggregation.completeRows quotaRows =
      [quotaRow (some Int64.maxValue) (some 1), quotaRow (some Int64.maxValue) (some 3)] := rfl
  obtain ⟨⟨s, hs, hvalue⟩, hother⟩ :=
    feedAll_value (percent "Hits" "Total") quotaRows (by decide) (by decide +kernel)
  obtain ⟨⟨s', hs', hvalue'⟩, -⟩ := feedAll_value (percent "Hits" "Total")
    (quotaRows ++ [quotaRow (some 1) (some (-4))]) (by decide) (by decide +kernel)
  refine ⟨⟨s, hs, hvalue.trans ?_⟩, ⟨s', hs', hvalue'.trans ?_⟩,
    hother _ (by decide +kernel) (hcomplete ▸ List.Perm.swap _ _ _)⟩
  · rw [hcomplete]
    unfold value ratioOf
    dsimp only
    rw [if_neg (by decide +kernel)]
    rfl
  · -- The totals of the complete rows, one, three and minus four, add up to zero.
    unfold value ratioOf
    dsimp only
    exact if_pos (.inr (by decide +kernel))

end Fraction

end MetricSeries
