import MetricSeries.Proofs.Aggregate.Columns
import MetricSeries.Provider

/-!
# The rows that a request is answered with

A provider answers a request by the records that the request covers, in the order in which they
were recorded: those of the category whose system is wanted and whose time lies in the window
(`FetchRequest.Covers`). It fails exactly when a record of the category cannot be judged, because
it lacks the system column or, belonging to a wanted system, the time column
(`FetchRequest.Obscures`).

Both are said of the integer views of two cells; `rows_eq_ok_iff` is the only place where the
recursion of `FetchRequest.rows` is opened.
-/

namespace MetricSeries

open Fallible

namespace FetchRequest

/-- **A request covers a record** when the record is of the category, belongs to one of the wanted
systems and lies in the window. -/
structure Covers (q : FetchRequest) (r : Record) : Prop where
  category : r.category = q.category
  system : ∃ s ∈ q.systems, r.row.integer? q.systemColumn = some s.number
  time : ∃ t, r.row.integer? q.timeColumn = some t ∧ q.first ≤ t.toInt ∧ t.toInt ≤ q.last

/-- A record of the category leaves a request in the dark when it lacks the system column, or when
it belongs to a wanted system and lacks the time column. -/
def Obscures (q : FetchRequest) (r : Record) : Prop :=
  r.category = q.category ∧
    (¬ r.row.contains q.systemColumn ∨
      (∃ s ∈ q.systems, r.row.integer? q.systemColumn = some s.number) ∧
        ¬ r.row.contains q.timeColumn)

variable {q : FetchRequest} {r : Record}

theorem wantsSystem_iff {system : Option Int64} :
    q.wantsSystem system ↔ ∃ s ∈ q.systems, system = some s.number := by
  unfold wantsSystem
  cases system with
  | none => simp
  | some n => simp only [List.any_eq_true, decide_eq_true_eq, Option.some.injEq, @eq_comm _ n]

theorem wantsTime_iff {time : Option Int64} :
    q.wantsTime time ↔ ∃ t, time = some t ∧ q.first ≤ t.toInt ∧ t.toInt ≤ q.last := by
  unfold wantsTime
  cases time with
  | none => simp
  | some t => simp

theorem covers_iff :
    q.Covers r ↔ r.category = q.category ∧ q.wantsSystem (r.row.integer? q.systemColumn) ∧
      q.wantsTime (r.row.integer? q.timeColumn) := by
  rw [wantsSystem_iff, wantsTime_iff]
  exact ⟨fun ⟨hc, hs, ht⟩ => ⟨hc, hs, ht⟩, fun ⟨hc, hs, ht⟩ => ⟨hc, hs, ht⟩⟩

instance (q : FetchRequest) (r : Record) : Decidable (q.Covers r) :=
  decidable_of_iff _ covers_iff.symm

/-- A record is judged unless it leaves the request in the dark, and then by whether the request
covers it. -/
theorem matchesRecord_eq_ok_iff {w : Bool} :
    q.matchesRecord r = .ok w ↔ ¬ q.Obscures r ∧ (w ↔ q.Covers r) := by
  rw [covers_iff]
  unfold matchesRecord Obscures
  by_cases hcategory : r.category = q.category
  · rw [if_pos hcategory, bind_eq_ok_iff, ← wantsSystem_iff]
    simp only [hcategory, true_and, Row.long_eq_ok_iff]
    by_cases hsystem : r.row.contains q.systemColumn
    · -- The time column is read only once the system is known to be wanted.
      by_cases hwanted : q.wantsSystem (r.row.integer? q.systemColumn)
      · simp only [hsystem, hwanted, true_and, exists_eq_left, if_true, not_true_eq_false,
          false_or, not_not]
        rw [bind_eq_ok_iff]
        simp only [Row.long_eq_ok_iff]
        refine ⟨?_, ?_⟩
        · rintro ⟨t, ⟨htime, rfl⟩, h⟩
          obtain rfl := Except.ok.inj h
          exact ⟨htime, Iff.rfl⟩
        · rintro ⟨htime, h⟩
          refine ⟨_, ⟨htime, rfl⟩, ?_⟩
          rw [Bool.eq_iff_iff.mpr h]
          rfl
      · cases w <;> simp [hsystem, hwanted]
    · simp [hsystem]
  · cases w <;> simp [hcategory]

/-- **The answer to a request**: the rows of the records that it covers, unless one of the records
leaves it in the dark. -/
theorem rows_eq_ok_iff {rs : List Record} {rows : List Row} :
    q.rows rs = .ok rows ↔
      (∀ r ∈ rs, ¬ q.Obscures r) ∧ rows = (rs.filter (q.Covers ·)).map Record.row := by
  induction rs generalizing rows with
  | nil => simp [FetchRequest.rows, eq_comm]
  | cons r rs ih =>
    -- The record is judged before those behind it, and nothing of it is kept but the judgement.
    unfold FetchRequest.rows
    simp only [bind_eq_ok_iff, matchesRecord_eq_ok_iff, ih, List.forall_mem_cons]
    refine ⟨?_, ?_⟩
    · rintro ⟨w, ⟨hr, hw⟩, rest, ⟨hrs, rfl⟩, h⟩
      obtain rfl := Except.ok.inj h
      refine ⟨⟨hr, hrs⟩, ?_⟩
      by_cases hcovers : q.Covers r <;> simp [hcovers, hw]
    · rintro ⟨⟨hr, hrs⟩, rfl⟩
      refine ⟨decide (q.Covers r), ⟨hr, by simp⟩, _, ⟨hrs, rfl⟩, ?_⟩
      by_cases hcovers : q.Covers r <;> simp [hcovers]

/-- A request fails over a column that a record lacks. -/
theorem exists_eq_of_rows_eq_error {rs : List Record} {e : Error} (h : q.rows rs = .error e) :
    ∃ c, e = .missingColumn c := by
  -- A record fails at its system or at its time, in each case for want of the column.
  have hmatches : ∀ r, q.matchesRecord r = .error e → ∃ c, e = .missingColumn c := by
    intro r hr
    unfold matchesRecord at hr
    split at hr
    · rcases bind_eq_error_iff.mp hr with hsystem | ⟨system, -, hr⟩
      · exact ⟨_, Row.eq_of_long_eq_error hsystem⟩
      · split at hr
        · rcases bind_eq_error_iff.mp hr with htime | ⟨time, -, hr⟩
          · exact ⟨_, Row.eq_of_long_eq_error htime⟩
          · cases hr
        · cases hr
    · cases hr
  -- By induction on the records: the error is that of the first one that fails.
  induction rs with
  | nil => cases h
  | cons r rs ih =>
    unfold FetchRequest.rows at h
    rcases bind_eq_error_iff.mp h with hr | ⟨w, -, h⟩
    · exact hmatches r hr
    · rcases bind_eq_error_iff.mp h with hrest | ⟨rest, -, h⟩
      · exact ih hrest
      · cases h

/-- The systems of a request are a set: neither their order nor how often one is listed counts. -/
theorem rows_congr_systems {systems : List SystemId} (h : ∀ s, s ∈ systems ↔ s ∈ q.systems) :
    ({ q with systems } : FetchRequest).rows = q.rows := by
  -- The systems are only ever asked whether they include one.
  have hwants : ({ q with systems } : FetchRequest).wantsSystem = q.wantsSystem := by
    funext system
    rw [Bool.eq_iff_iff, wantsSystem_iff, wantsSystem_iff]
    simp only [h]
  have hmatches : ({ q with systems } : FetchRequest).matchesRecord = q.matchesRecord := by
    funext r
    unfold matchesRecord
    rw [hwants]
    rfl
  funext rs
  induction rs with
  | nil => rfl
  | cons r rs ih =>
    unfold FetchRequest.rows
    rw [hmatches, ih]

theorem Covers.contains_time (h : q.Covers r) : r.row.contains q.timeColumn := by
  obtain ⟨t, ht, -⟩ := h.time
  exact Row.contains_of_integer? ht

end FetchRequest

end MetricSeries
