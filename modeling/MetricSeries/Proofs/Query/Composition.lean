import MetricSeries.Proofs.Query.Fetching
import MetricSeries.Proofs.Query.Slots
import MetricSeries.Query.Basic

/-!
# A query is made of its series

The accumulator of a query is passed from one planned series to the next, each of which appends a
slot and fills it. As rows for the last series touch nothing else, this comes to the same as
filling the slot of every series on its own (`Environment.slotOf`) and collecting the slots
(`foldlM_accumulateSeries`). So an answer is read off the slots of its series
(`answer_eq_ok_iff`), and over a window that is not empty, its failure is that of the first slot
that cannot be filled or else of the first bucket whose start has no local time
(`answer_eq_error_iff`).
-/

namespace MetricSeries

open Fallible Time

namespace Environment

variable {env : Environment} {window : QueryWindow} {plans : List SeriesPlan} {p : SeriesPlan}

def buckets (env : Environment) (window : QueryWindow) : Buckets :=
  .ofWindow window.first.first window.last.last env.config.maxPoints.toNat

/-- The slot of a planned series before any row. -/
def emptySlot (p : SeriesPlan) : SeriesSlot where
  name := p.name
  field := p.series
  systems := p.definition.systems

/-- The slot of a planned series, filled with the rows that the provider of its template returns. -/
def slotOf (env : Environment) (window : QueryWindow) (p : SeriesPlan) :
    Except Error SeriesSlot := do
  let provider ← env.sources.providerFor p.series.category.template
  let rows ← provider.fetch (env.request window p)
  (emptySlot p).takeAll (env.buckets window) env.config.timeColumn rows

/-- The start of every bucket as clocks in the environment's zone show it. -/
def bucketTexts (env : Environment) (window : QueryWindow) : Except Error (List String) :=
  (env.buckets window).starts.mapM fun t => return Wall.minuteText (← env.zone.toWall t)

/-! ### From the accumulator to the slots -/

/-- One planned series appends its filled slot. -/
theorem accumulateSeries_eq {a : Accumulator} (hb : a.buckets = env.buckets window)
    (ht : a.timeColumn = env.config.timeColumn) :
    env.accumulateSeries window a p =
      (env.slotOf window p).map fun s => { a with slots := a.slots ++ [s] } := by
  unfold accumulateSeries slotOf
  cases env.sources.providerFor p.series.category.template with
  | error e => rfl
  | ok provider =>
    simp only [ok_bind, Accumulator.addSeries]
    cases provider.fetch (env.request window p) with
    | error e => rfl
    | ok rows =>
      -- The series was appended just now, so its rows are rows for the last series.
      simp only [ok_bind]
      rw [Accumulator.accumulateAll_append_singleton rfl, hb, ht]
      rfl

/-- **The slots of a query** are those of its series, each filled on its own. -/
theorem foldlM_accumulateSeries {a : Accumulator} (hb : a.buckets = env.buckets window)
    (ht : a.timeColumn = env.config.timeColumn) :
    plans.foldlM (env.accumulateSeries window) a =
      (plans.mapM (env.slotOf window)).map fun slots => { a with slots := a.slots ++ slots } := by
  induction plans generalizing a with
  | nil => simp [Except.map]
  | cons p plans ih =>
    -- The slots that the accumulator holds already play no part in filling the next one.
    rw [List.foldlM_cons, List.mapM_cons, accumulateSeries_eq hb ht]
    cases env.slotOf window p with
    | error e => rfl
    | ok s =>
      change plans.foldlM _ { a with slots := a.slots ++ [s] } = _
      rw [ih (a := { a with slots := a.slots ++ [s] }) hb ht, ok_bind]
      cases plans.mapM (env.slotOf window) with
      | error e => rfl
      | ok slots => simp [Except.map]

theorem answer_eq_ok_iff {r : QueryResult} :
    env.answer plans window = .ok r ↔ window.first.first ≤ window.last.last ∧
      ∃ slots texts, plans.mapM (env.slotOf window) = .ok slots ∧
        env.bucketTexts window = .ok texts ∧
        ⟨texts, slots.map (·.render (env.buckets window) env.config.precision.toNat)⟩ = r := by
  unfold answer Accumulator.new
  by_cases hwindow : window.last.last < window.first.first
  · -- An empty window is refused before any series is looked at.
    rw [if_pos hwindow, error_bind]
    simp [Int.not_le.mpr hwindow]
  · rw [if_neg hwindow, ok_bind, foldlM_accumulateSeries rfl rfl]
    simp only [Int.not_lt.mp hwindow, true_and]
    cases plans.mapM (env.slotOf window) with
    | error e => simp [Except.map]
    | ok slots =>
      change (env.bucketTexts window >>= fun texts => pure _) = .ok r ↔ _
      rw [bind_eq_ok_iff]
      simp [Accumulator.withTimeColumn, buckets]

/-- The failure of an answer is that of the first slot that cannot be filled, or else that of the
first bucket whose start cannot be shown. -/
theorem answer_eq_error_iff {e : Error} (hwindow : window.first.first ≤ window.last.last) :
    env.answer plans window = .error e ↔ plans.mapM (env.slotOf window) = .error e ∨
      (∃ slots, plans.mapM (env.slotOf window) = .ok slots) ∧
        env.bucketTexts window = .error e := by
  unfold answer Accumulator.new
  rw [if_neg (Int.not_lt.mpr hwindow), ok_bind, foldlM_accumulateSeries rfl rfl]
  -- The columns are settled before the bucket texts: these are reached only if no column fails.
  cases plans.mapM (env.slotOf window) with
  | error e' => simp [Except.map]
  | ok slots =>
    change (env.bucketTexts window >>= fun texts => pure _) = .error e ↔ _
    rw [bind_eq_error_iff]
    simp

theorem bucketTexts_eq_error_iff {e : Error} : env.bucketTexts window = .error e ↔
    ∃ before t after, (env.buckets window).starts = before ++ t :: after ∧
      (∀ s ∈ before, ∃ w, env.zone.toWall s = .ok w) ∧ env.zone.toWall t = .error e := by
  -- A start has a text exactly if it has a wall time, and fails with the same error.
  have hshown : ∀ s, (∃ text, (return Wall.minuteText (← env.zone.toWall s) :
      Except Error String) = .ok text) ↔ ∃ w, env.zone.toWall s = .ok w := by
    intro s
    cases env.zone.toWall s with
    | ok w => simp
    | error e' => simp
  have hfails : ∀ t, (return Wall.minuteText (← env.zone.toWall t) : Except Error String) =
      .error e ↔ env.zone.toWall t = .error e := by
    intro t
    rw [bind_eq_error_iff]
    simp
  unfold bucketTexts
  rw [mapM_eq_error_iff]
  simp only [hfails]
  refine ⟨?_, ?_⟩
  · rintro ⟨before, t, after, texts, hsplit, htexts, ht⟩
    have hall := exists_mapM_iff.mp ⟨texts, mapM_eq_ok_iff.mpr htexts⟩
    exact ⟨before, t, after, hsplit, fun s hs => (hshown s).mp (hall s hs), ht⟩
  · rintro ⟨before, t, after, hsplit, hbefore, ht⟩
    obtain ⟨texts, htexts⟩ := exists_mapM_iff.mpr fun s hs => (hshown s).mpr (hbefore s hs)
    exact ⟨before, t, after, texts, hsplit, mapM_eq_ok_iff.mp htexts, ht⟩

/-- A query is planned, its window resolved, and then it is answered. -/
theorem evaluate_eq_ok_iff {text first last : String} {aliases : Option String}
    {r : QueryResult} :
    env.evaluate text first last aliases = .ok r ↔ ∃ plans window,
      env.plan text aliases = .ok plans ∧ env.window first last = .ok window ∧
        env.answer plans window = .ok r := by
  unfold evaluate
  simp only [bind_eq_ok_iff]
  exact ⟨fun ⟨plans, hp, window, hw, h⟩ => ⟨plans, window, hp, hw, h⟩,
    fun ⟨plans, window, hp, hw, h⟩ => ⟨plans, hp, window, hw, h⟩⟩

/-! ### The slot of one series -/

theorem emptySlot_gathers {b : Buckets} {timeColumn : String} :
    (emptySlot p).Gathers (rowsIn b timeColumn []) :=
  fun _ => rfl

/-- What stands in a filled slot: the rows of the provider, bucket by bucket. -/
theorem of_slotOf {s : SeriesSlot} (h : env.slotOf window p = .ok s) :
    ∃ provider rows, env.sources.providerFor p.series.category.template = .ok provider ∧
      provider.fetch (env.request window p) = .ok rows ∧
      s = { emptySlot p with filled := s.filled } ∧
      s.Gathers (rowsIn (env.buckets window) env.config.timeColumn rows) := by
  obtain ⟨provider, hprovider, h⟩ := bind_eq_ok_iff.mp h
  obtain ⟨rows, hrows, h⟩ := bind_eq_ok_iff.mp h
  exact ⟨provider, rows, hprovider, hrows, SeriesSlot.eq_of_takeAll h,
    emptySlot_gathers.takeAll h⟩

theorem exists_slotOf_iff {provider : Provider}
    (hprovider : env.sources.providerFor p.series.category.template = .ok provider) :
    (∃ s, env.slotOf window p = .ok s) ↔
      ∃ rows, provider.fetch (env.request window p) = .ok rows ∧
        ∀ row ∈ rows, row.contains env.config.timeColumn ∧
          ((row.bucket? (env.buckets window) env.config.timeColumn).isSome →
            ∀ c ∈ p.series.aggregation.columns, row.contains c) := by
  unfold slotOf
  rw [hprovider, ok_bind, exists_bind_eq_ok_iff]
  exact exists_congr fun rows => and_congr_right fun _ =>
    SeriesSlot.exists_takeAll_iff emptySlot_gathers

/-- A slot that cannot be filled lacks a column, unless it lacks its provider. -/
theorem exists_eq_of_slotOf_eq_error {provider : Provider} {e : Error}
    (hprovider : env.sources.providerFor p.series.category.template = .ok provider)
    (h : env.slotOf window p = .error e) : ∃ c, e = .missingColumn c := by
  unfold slotOf at h
  rw [hprovider, ok_bind] at h
  rcases bind_eq_error_iff.mp h with hrows | ⟨rows, -, htake⟩
  · exact FetchRequest.exists_eq_of_rows_eq_error hrows
  · exact SeriesSlot.exists_eq_of_takeAll_eq_error htake

end Environment

end MetricSeries
