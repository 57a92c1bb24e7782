import Mathlib.Data.List.Induction
import MetricSeries.Proofs.Aggregate.ExactSums

/-!
# Aggregations of integers

A sum or an extremum of integer kind does not see rows but integers, one for each cell of its column
that is not NULL (`integersIn`). Feeding it rows is running over these integers
(`Aggregator.feedAll_eq_foldl`), and what it has gathered on the way is said by an invariant of the
run:

* `WideSum.foldl_addInt` — the total of a sum is exact, as fewer than two to the power of 64
  integers of 64 bits leave the 128 bits at no place of the run, in whatever order they come;
* `Keep.foldl_pickInt` — the extremum that is kept is the best one of the integers so far.

Which number an aggregation of integers yields is said by definition, without an order of the
integers (`Aggregation.Yields`). The main result is `Aggregator.feedAll_integer_kind`: this is the
result of the aggregator, whatever the rows and their order.
-/

namespace MetricSeries

open Fallible

variable {column : String} {row : Row} {rows : List Row} {a : Aggregation} {ns ns' : List Int64}
  {n m : Int64} {keep : Keep}

/-! ### The number that is yielded -/

/-- **The number that an aggregation of integers yields**, by definition: none without integers, or
else their exact sum, as a double if it does not fit 64 bits, their smallest or their largest. -/
inductive Aggregation.Yields (ns : List Int64) : Aggregation → Option Number → Prop where
  | blank {a : Aggregation} (nil : ns = []) : Yields ns a none
  | sum {column : String} {n : Int64} (ne_nil : ns ≠ []) (value : n.toInt = exactSum ns) :
      Yields ns (.sum column .integer) (some (.int n))
  | wideSum {column : String} (ne_nil : ns ≠ [])
      (outside : exactSum ns < -Text.int64Bound ∨ Text.int64Bound ≤ exactSum ns) :
      Yields ns (.sum column .integer) (some (.float (Float.ofInt (exactSum ns))))
  | min {column : String} {n : Int64} (mem : n ∈ ns) (least : ∀ m ∈ ns, n.toInt ≤ m.toInt) :
      Yields ns (.min column .integer) (some (.int n))
  | max {column : String} {n : Int64} (mem : n ∈ ns) (greatest : ∀ m ∈ ns, m.toInt ≤ n.toInt) :
      Yields ns (.max column .integer) (some (.int n))

/-- The aggregations of integers in a column. -/
def Aggregation.ofIntegers (column : String) : List Aggregation :=
  [.sum column .integer, .min column .integer, .max column .integer]

/-! ### The definition -/

namespace Aggregation

variable {result result' : Option Number}

/-- The order of the integers does not count for what an aggregation yields. -/
theorem Yields.perm (h : a.Yields ns result) (hperm : ns.Perm ns') : a.Yields ns' result := by
  -- Each rule speaks of the integers by membership and by their sum, and neither knows an order.
  cases h with
  | blank nil => exact .blank (List.nil_perm.mp (nil ▸ hperm))
  | sum ne_nil value =>
    exact .sum (fun hnil => ne_nil (List.perm_nil.mp (hnil ▸ hperm)))
      (value.trans (exactSum_perm hperm))
  | wideSum ne_nil outside =>
    rw [exactSum_perm hperm] at outside ⊢
    exact .wideSum (fun hnil => ne_nil (List.perm_nil.mp (hnil ▸ hperm))) outside
  | min mem least =>
    exact .min (hperm.subset mem) fun m hm => least m (hperm.symm.subset hm)
  | max mem greatest =>
    exact .max (hperm.subset mem) fun m hm => greatest m (hperm.symm.subset hm)

/-- **An aggregation yields one number** at most. -/
theorem Yields.unique (h : a.Yields ns result) (h' : a.Yields ns result') : result = result' := by
  -- Two rules never apply at once: a total fits 64 bits or does not, and without integers there is
  -- neither a total nor an extremum.
  cases h with
  | blank nil =>
    subst nil
    cases h' with
    | blank => rfl
    | sum ne_nil => exact absurd rfl ne_nil
    | wideSum ne_nil => exact absurd rfl ne_nil
    | min mem => exact absurd mem List.not_mem_nil
    | max mem => exact absurd mem List.not_mem_nil
  | @sum _ n ne_nil value =>
    cases h' with
    | blank nil => exact absurd nil ne_nil
    | sum _ value' => rw [Int64.toInt_inj.mp (value.trans value'.symm)]
    | wideSum _ outside =>
      have hmem := toInt_mem_range n
      omega
  | wideSum ne_nil outside =>
    cases h' with
    | blank nil => exact absurd nil ne_nil
    | @sum _ n _ value =>
      have hmem := toInt_mem_range n
      omega
    | wideSum => rfl
  | min mem least =>
    cases h' with
    | blank nil => exact absurd mem (nil ▸ List.not_mem_nil)
    | min mem' least' =>
      rw [Int64.toInt_inj.mp (Int.le_antisymm (least _ mem') (least' _ mem))]
  | max mem greatest =>
    cases h' with
    | blank nil => exact absurd mem (nil ▸ List.not_mem_nil)
    | max mem' greatest' =>
      rw [Int64.toInt_inj.mp (Int.le_antisymm (greatest' _ mem) (greatest _ mem'))]

end Aggregation

/-! ### From rows to integers -/

/-- A cell that counts as the integer in it is as good as the integer. -/
theorem Row.cell?_elim {σ : Type} (s : σ) (add : σ → Option Cell → σ) (step : σ → Int64 → σ)
    (hnull : add s none = s) (hcell : ∀ c : Cell, add s (some c) = step s c.toInt64) :
    add s (row.cell? column) = (row.integer? column).elim s (step s) := by
  rw [integer?_eq_map]
  cases row.cell? column with
  | none => exact hnull
  | some c => exact hcell c

/-- **Feeding rows is running over the integers in a column**, for every aggregation to which a row
is the integer in this column. -/
theorem Aggregator.feedAll_eq_foldl (a : Aggregation) (step : a.State → Int64 → a.State)
    (ha : a.columns = [column])
    (hstep : ∀ row s, a.absorb row s = (row.integer? column).elim s (step s))
    (hrows : ∀ row ∈ rows, row.contains column) (s : a.State) :
    (⟨a, s⟩ : Aggregator).feedAll rows = .ok ⟨a, (integersIn column rows).foldl step s⟩ := by
  have hcarry : ∀ row ∈ rows, ∀ c ∈ a.columns, row.contains c := by
    intro row hrow c hc
    rw [ha] at hc
    obtain rfl := List.mem_singleton.mp hc
    exact hrows row hrow
  have habsorb : (fun (s : a.State) (row : Row) => a.absorb row s) =
      fun s row => (row.integer? column).elim s (step s) :=
    funext fun s => funext fun row => hstep row s
  rw [feedAll_eq_foldl_absorb hcarry, habsorb]
  -- NULL is no integer, and leaves the state as it is.
  unfold integersIn
  rw [List.foldl_filterMap]
  congr 3
  funext s row
  cases row.integer? column <;> rfl

/-! ### Sums -/

namespace WideSum

/-- The total of a sum with one more integer. -/
def addInt (total : Option WideSum) (n : Int64) : Option WideSum :=
  some ((total.getD .zero).add (.int n))

/-- The total of a sum that is exact. -/
def exact (ns : List Int64) : Option WideSum := if ns = [] then none else some (.int (exactSum ns))

theorem getD_exact (ns : List Int64) : (exact ns).getD .zero = .int (exactSum ns) := by
  unfold exact
  by_cases hnil : ns = []
  · rw [if_pos hnil, hnil]
    rfl
  · rw [if_neg hnil, Option.getD_some]

/-- **Fewer than two to the power of 64 integers are summed exactly.** -/
theorem foldl_addInt (h : ns.length < UInt64.size) : ns.foldl addInt none = exact ns := by
  induction ns using List.reverseRecOn with
  | nil => rfl
  | append_singleton ns n ih =>
    rw [List.length_append, List.length_singleton] at h
    -- The integers before the last one have left an exact total, and the last one keeps it exact.
    rw [List.foldl_append, ih (by omega), List.foldl_cons, List.foldl_nil]
    unfold addInt
    rw [getD_exact, add_exact (by omega)]
    unfold exact
    rw [if_neg (List.append_ne_nil_of_right_ne_nil ns (List.cons_ne_nil n []))]

end WideSum

/-- **The state of a sum is its exact total**, after any rows. -/
theorem Aggregator.feedAll_sum (hlength : rows.length < UInt64.size)
    (hrows : ∀ row ∈ rows, row.contains column) :
    (start (.sum column .integer)).feedAll rows =
      .ok ⟨.sum column .integer, WideSum.exact (integersIn column rows)⟩ := by
  -- NULL is left out, so there are no more integers than rows.
  have hlength' : (integersIn column rows).length < UInt64.size :=
    Nat.lt_of_le_of_lt (List.length_filterMap_le _ _) hlength
  have hfold := feedAll_eq_foldl (.sum column .integer) WideSum.addInt rfl
    (fun row total => Row.cell?_elim total (WideSum.addTo · .integer) WideSum.addInt rfl
      fun c => rfl) hrows (none : Option WideSum)
  calc (start (.sum column .integer)).feedAll rows
    _ = .ok ⟨.sum column .integer, (integersIn column rows).foldl WideSum.addInt none⟩ := hfold
    _ = .ok ⟨.sum column .integer, WideSum.exact (integersIn column rows)⟩ :=
      congrArg
        (fun total : Option WideSum => Except.ok (Aggregator.mk (.sum column .integer) total))
        (WideSum.foldl_addInt hlength')

theorem Aggregation.yields_sum (column : String) (ns : List Int64) :
    (sum column .integer).Yields ns ((WideSum.exact ns).map (WideSum.toNumber .integer)) := by
  unfold WideSum.exact
  by_cases hnil : ns = []
  · rw [if_pos hnil]
    exact .blank hnil
  · rw [if_neg hnil, Option.map_some]
    unfold WideSum.toNumber
    dsimp only
    -- A total that does not fit 64 bits becomes a double.
    split
    next n hfits => exact .sum hnil (Text.toInt_of_fitInt64? hfits)
    next hfits =>
      refine .wideSum hnil ?_
      unfold Text.fitInt64? at hfits
      split at hfits
      next => cases hfits
      next houtside => omega

/-! ### Extrema -/

namespace Keep

/-- Whether an integer is at least as good as another one. -/
def Prefers : Keep → Int64 → Int64 → Prop
  | smallest, n, m => n.toInt ≤ m.toInt
  | largest, n, m => m.toInt ≤ n.toInt

/-- **The best one of the integers.** -/
structure Best (keep : Keep) (ns : List Int64) (n : Int64) : Prop where
  mem : n ∈ ns
  prefers : ∀ m ∈ ns, keep.Prefers n m

/-- The kept extremum with one more integer. -/
def pickInt (keep : Keep) (kept : Option Cell) (n : Int64) : Option Cell :=
  some (keep.pick kept (.int n))

theorem Prefers.refl (keep : Keep) (n : Int64) : keep.Prefers n n := by
  cases keep with
  | smallest => exact Int.le_refl _
  | largest => exact Int.le_refl _

theorem Prefers.trans {k : Int64} (h : keep.Prefers k n) (h' : keep.Prefers n m) :
    keep.Prefers k m := by
  cases keep with
  | smallest => exact Int.le_trans h h'
  | largest => exact Int.le_trans h' h

theorem Prefers.total (keep : Keep) (n m : Int64) : keep.Prefers n m ∨ keep.Prefers m n := by
  cases keep with
  | smallest => exact Int.le_total _ _
  | largest => exact Int.le_total _ _

/-- **Only a strictly better integer takes the place** of the one that is kept. -/
theorem replaces_int_iff : keep.replaces (.int m) (.int n) = true ↔ ¬ keep.Prefers n m := by
  cases keep with
  | smallest =>
    show decide (m < n) = true ↔ ¬ n.toInt ≤ m.toInt
    rw [decide_eq_true_eq, Int64.lt_iff_toInt_lt, Int.not_le]
  | largest =>
    show decide (n < m) = true ↔ ¬ m.toInt ≤ n.toInt
    rw [decide_eq_true_eq, Int64.lt_iff_toInt_lt, Int.not_le]

/-- **One integer keeps the best one kept.** -/
theorem Best.pickInt (h : keep.Best ns n) (m : Int64) :
    ∃ k, keep.pickInt (some (.int n)) m = some (.int k) ∧ keep.Best (ns ++ [m]) k := by
  unfold Keep.pickInt pick
  dsimp only
  by_cases hprefers : keep.Prefers n m
  · -- The integer that is kept stays, and is preferred to the new one as well.
    rw [if_neg fun hreplaces => replaces_int_iff.mp hreplaces hprefers]
    refine ⟨n, rfl, List.mem_append_left _ h.mem, ?_⟩
    rw [List.forall_mem_append, List.forall_mem_singleton]
    exact ⟨h.prefers, hprefers⟩
  · -- The new integer is preferred to the kept one, and by way of it to all before.
    have hbetter := (Prefers.total keep n m).resolve_left hprefers
    rw [if_pos (replaces_int_iff.mpr hprefers)]
    refine ⟨m, rfl, List.mem_append_right _ (List.mem_singleton_self m), ?_⟩
    rw [List.forall_mem_append, List.forall_mem_singleton]
    exact ⟨fun x hx => hbetter.trans (h.prefers x hx), Prefers.refl keep m⟩

/-- **A run of integers keeps the best one kept.** -/
theorem Best.foldl_pickInt {seen : List Int64} (h : keep.Best seen n) :
    ∃ k, ns.foldl keep.pickInt (some (.int n)) = some (.int k) ∧ keep.Best (seen ++ ns) k := by
  -- With each step, the integers seen are one more, and the best one of them may be another.
  induction ns generalizing seen n with
  | nil => exact ⟨n, rfl, by rwa [List.append_nil]⟩
  | cons m ns ih =>
    obtain ⟨k, hk, hbest⟩ := h.pickInt m
    rw [List.foldl_cons, hk]
    obtain ⟨k', hk', hbest'⟩ := ih hbest
    rw [List.append_assoc, List.singleton_append] at hbest'
    exact ⟨k', hk', hbest'⟩

/-- **What is kept** is nothing without integers, and the best one of them otherwise. -/
theorem foldl_pickInt (keep : Keep) (ns : List Int64) :
    (ns = [] ∧ ns.foldl keep.pickInt none = none) ∨
      ∃ k, ns.foldl keep.pickInt none = some (.int k) ∧ keep.Best ns k := by
  cases ns with
  | nil => exact .inl ⟨rfl, rfl⟩
  | cons n ns =>
    have hfirst : keep.Best [n] n :=
      ⟨List.mem_singleton_self n, List.forall_mem_singleton.mpr (Prefers.refl keep n)⟩
    exact .inr hfirst.foldl_pickInt

end Keep

/-- The aggregation that keeps one end of the range of integers. -/
def Keep.ofIntegers (column : String) : Keep → Aggregation
  | smallest => .min column .integer
  | largest => .max column .integer

/-- The best one of the integers is what the extremum yields. -/
theorem Keep.Best.yields (h : keep.Best ns n) (column : String) :
    (keep.ofIntegers column).Yields ns (some (.int n)) := by
  cases keep with
  | smallest => exact .min h.mem h.prefers
  | largest => exact .max h.mem h.prefers

/-- **The state of an extremum is the cell that a run over the integers keeps**, after any rows. -/
theorem Aggregator.exists_feedAll_extremum (keep : Keep)
    (hrows : ∀ row ∈ rows, row.contains column) :
    ∃ s, (start (keep.ofIntegers column)).feedAll rows = .ok s ∧
      s.result = ((integersIn column rows).foldl keep.pickInt none).map Cell.toNumber := by
  -- The two aggregations differ in what they keep, and the run over the integers is the same.
  cases keep with
  | smallest =>
    exact ⟨_, feedAll_eq_foldl (.min column .integer) Keep.smallest.pickInt rfl
      (fun row kept => Row.cell?_elim kept (Keep.smallest.add .integer) Keep.smallest.pickInt rfl
        fun c => rfl) hrows (none : Option Cell), rfl⟩
  | largest =>
    exact ⟨_, feedAll_eq_foldl (.max column .integer) Keep.largest.pickInt rfl
      (fun row kept => Row.cell?_elim kept (Keep.largest.add .integer) Keep.largest.pickInt rfl
        fun c => rfl) hrows (none : Option Cell), rfl⟩

/-! ### Results -/

namespace Aggregator

theorem exists_yields_extremum (keep : Keep) (hrows : ∀ row ∈ rows, row.contains column) :
    ∃ s, (start (keep.ofIntegers column)).feedAll rows = .ok s ∧
      (keep.ofIntegers column).Yields (integersIn column rows) s.result := by
  obtain ⟨s, hs, hresult⟩ := exists_feedAll_extremum keep hrows
  refine ⟨s, hs, ?_⟩
  rw [hresult]
  -- Without integers the answer is NULL; with some it is the one that is kept among them.
  rcases keep.foldl_pickInt (integersIn column rows) with ⟨hnil, hnone⟩ | ⟨n, hn, hbest⟩
  · rw [hnone]
    exact .blank hnil
  · rw [hn]
    exact hbest.yields column

/-- **An aggregation of integers yields a number from any rows** that carry its column. -/
theorem exists_yields (ha : a ∈ Aggregation.ofIntegers column)
    (hlength : rows.length < UInt64.size) (hrows : ∀ row ∈ rows, row.contains column) :
    ∃ s, (start a).feedAll rows = .ok s ∧ a.Yields (integersIn column rows) s.result := by
  simp only [Aggregation.ofIntegers, List.mem_cons, List.not_mem_nil, or_false] at ha
  rcases ha with rfl | rfl | rfl
  · exact ⟨_, feedAll_sum hlength hrows, Aggregation.yields_sum column _⟩
  · exact exists_yields_extremum .smallest hrows
  · exact exists_yields_extremum .largest hrows

/-- **Sums and extrema of integers are those of mathematics.** Let fewer than two to the power of 64
rows carry a column, and let an aggregator of integer kind be fed them: for their sum, their
smallest or their largest value.

* It takes all rows, and its result is the number that the integers in the column yield by
  definition. A cell that is NULL does not count, and a double counts as its integer view
  (`Cell.view`): without its fraction, within 64 bits, and as zero if it is no number.
* The rows in another order have the same result.
* After each of the rows, the total of the sum is the exact one, and never a double. -/
theorem feedAll_integer_kind (column : String) (rows : List Row) (a : Aggregation)
    (ha : a ∈ Aggregation.ofIntegers column) (hlength : rows.length < UInt64.size)
    (hrows : ∀ row ∈ rows, row.contains column) :
    (∃ s, (start a).feedAll rows = .ok s ∧ a.Yields (integersIn column rows) s.result) ∧
    (∀ rows', rows'.Perm rows →
      ((start a).feedAll rows').map result = ((start a).feedAll rows).map result) ∧
    ∀ before, before <+: rows → (start (.sum column .integer)).feedAll before =
      .ok ⟨.sum column .integer, WideSum.exact (integersIn column before)⟩ := by
  obtain ⟨s, hs, hyields⟩ := exists_yields ha hlength hrows
  refine ⟨⟨s, hs, hyields⟩, fun rows' hperm => ?_, fun before hbefore => ?_⟩
  · obtain ⟨s', hs', hyields'⟩ := exists_yields ha (hperm.length_eq ▸ hlength)
      fun row hrow => hrows row (hperm.subset hrow)
    -- Both results are yielded by the same integers.
    have hsame := (hyields'.perm (hperm.filterMap _)).unique hyields
    rw [hs, hs']
    exact congrArg Except.ok hsame
  · exact feedAll_sum (Nat.lt_of_le_of_lt hbefore.length_le hlength)
      fun row hrow => hrows row (hbefore.subset hrow)

/-- Rows with the largest integer twice, NULL, the smallest integer, and five doubles: two with a
fraction, one above 64 bits, one that is no number, and one below 64 bits. -/
def wideHits : List Row :=
  [some (.int Int64.maxValue), some (.int Int64.maxValue), none, some (.int Int64.minValue),
    some (.float 1.9), some (.float (-3.9)), some (.float 1e19), some (.float (0 / 0)),
    some (.float (-1e300))].map fun cell => SortedMap.ofList [("Hits", cell)]

/-- The doubles count without their fractions and within 64 bits, and the one that is no number as
zero. The sum leaves 64 bits with the second row and comes back with the last one. Backwards it ends
the same, and without the last row it is a double. -/
theorem feedAll_integer_kind_wideHits :
    integersIn "Hits" wideHits = [Int64.maxValue, Int64.maxValue, Int64.minValue, 1, -3,
      Int64.maxValue, 0, Int64.minValue] ∧
    (∃ s, (start (.sum "Hits" .integer)).feedAll wideHits = .ok s ∧
      s.result = some (.int 9223372036854775803)) ∧
    ((start (.sum "Hits" .integer)).feedAll wideHits.reverse).map result =
      ((start (.sum "Hits" .integer)).feedAll wideHits).map result ∧
    (∃ s, (start (.sum "Hits" .integer)).feedAll wideHits.dropLast = .ok s ∧
      s.result = some (.float (Float.ofInt 18446744073709551611))) ∧
    ∃ s, (start (.min "Hits" .integer)).feedAll wideHits = .ok s ∧
      s.result = some (.int Int64.minValue) := by
  have hrows : ∀ row ∈ wideHits, row.contains "Hits" := by decide +kernel
  -- The definition decides about the results once the integers in the column are known.
  have hints : integersIn "Hits" wideHits = [Int64.maxValue, Int64.maxValue, Int64.minValue, 1, -3,
      Int64.maxValue, 0, Int64.minValue] := by decide +kernel
  have hints' : integersIn "Hits" wideHits.dropLast = [Int64.maxValue, Int64.maxValue,
      Int64.minValue, 1, -3, Int64.maxValue, 0] := by decide +kernel
  obtain ⟨⟨s, hs, hyields⟩, horder, -⟩ := feedAll_integer_kind "Hits" wideHits
    (.sum "Hits" .integer) (by simp [Aggregation.ofIntegers]) (by decide) hrows
  obtain ⟨⟨s', hs', hyields'⟩, -⟩ := feedAll_integer_kind "Hits" wideHits.dropLast
    (.sum "Hits" .integer) (by simp [Aggregation.ofIntegers]) (by decide)
    fun row hrow => hrows row (List.dropLast_subset wideHits hrow)
  obtain ⟨⟨s'', hs'', hyields''⟩, -⟩ := feedAll_integer_kind "Hits" wideHits
    (.min "Hits" .integer) (by simp [Aggregation.ofIntegers]) (by decide) hrows
  rw [hints] at hyields hyields''
  rw [hints'] at hyields'
  refine ⟨hints, ⟨s, hs, hyields.unique (.sum (by decide) (by decide))⟩,
    horder _ (List.reverse_perm wideHits), ⟨s', hs', hyields'.unique ?_⟩,
    s'', hs'', hyields''.unique (.min (by decide) fun n _ => n.le_toInt)⟩
  exact .wideSum (by decide) (by decide)

end Aggregator

end MetricSeries
