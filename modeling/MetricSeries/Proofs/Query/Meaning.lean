import Mathlib.Data.List.Perm.Basic
import MetricSeries.Proofs.Query.Composition
import MetricSeries.Proofs.Time.LocalTime

/-!
# What the answer to a query means

The answer to a query is described without reference to how it is computed, by which records count
for which point.

* `Environment.CountsAt` — a record counts for a point of a planned series when it is of the
  series' category, belongs to one of its systems, lies in the window and lies in the span of the
  point's bucket. The point's value is what a fresh aggregator makes of the rows of these records,
  in the order in which they were recorded (`Environment.Depicts`).
* `Environment.Spoils` — a record spoils a planned series when it is of the category and lacks a
  column that must be read to place it or, once it is known to count, to aggregate it.

`depicts_and_error_iff` says that every answer is of this kind, and that a query which is planned,
has a window and finds its providers is refused exactly when a record spoils one of its series or
the first bucket that cannot be dated starts out of range. The second cause is real: the end of a
window may lie beyond the latest instant (`not_error_iff_spoils`). In the last hours of the range a
bucket may start in range where clocks show what is not; there the program is stopped.

The window is tested twice on the way, by the provider and by the accumulator, and the two tests
agree: a record that a request covers is dated into exactly one bucket (`existsUnique_countsAt`), so
no row that a provider returns is passed over.
-/

namespace MetricSeries

open Fallible Time

/-! ### Grouping by bucket -/

theorem flatMap_range_single {α : Type} {n k : Nat} (h : k < n) (x : α) :
    ((List.range n).flatMap fun i => if some k = some i then [x] else []) = [x] := by
  induction n with
  | zero => exact absurd h (Nat.not_lt_zero k)
  | succ n ih =>
    rw [List.range_succ, List.flatMap_append]
    -- The last index is the one, or the one is among those before it.
    by_cases hk : k = n
    · subst hk
      have hnone : ((List.range k).flatMap fun i => if some k = some i then [x] else []) = [] := by
        refine List.flatMap_eq_nil_iff.mpr fun i hi => if_neg ?_
        have hlt := List.mem_range.mp hi
        simp only [Option.some.injEq]
        omega
      rw [hnone]
      simp
    · rw [ih (by omega)]
      simp [hk]

/-- Grouping rows by their bucket loses none of them and repeats none. -/
theorem perm_flatMap_rowsIn {b : Buckets} {timeColumn : String} {rows : List Row}
    (h : ∀ row ∈ rows, ∃ i < b.count, row.bucket? b timeColumn = some i) :
    ((List.range b.count).flatMap (rowsIn b timeColumn rows)).Perm rows := by
  induction rows with
  | nil => simp [rowsIn]
  | cons row rows ih =>
    obtain ⟨⟨k, hk, hbucket⟩, hrest⟩ := List.forall_mem_cons.mp h
    -- The first row comes in front of the rows of one bucket and of no other.
    have hsplit : rowsIn b timeColumn (row :: rows) = fun i =>
        (if some k = some i then [row] else []) ++ rowsIn b timeColumn rows i := by
      funext i
      unfold rowsIn
      rw [List.filter_cons, hbucket]
      by_cases hi : k = i <;> simp [hi]
    rw [hsplit]
    refine (List.flatMap_append_perm _ _ _).symm.trans ?_
    rw [flatMap_range_single hk]
    exact List.Perm.cons row (ih hrest)

namespace Environment

/-! ### Records and points -/

/-- **A record counts for a point** of a planned series. -/
structure CountsAt (env : Environment) (window : QueryWindow) (p : SeriesPlan) (i : Nat)
    (r : Record) : Prop where
  category : r.category = p.series.category.name
  system : ∃ s ∈ p.definition.systems,
    r.row.integer? env.config.systemColumn = some s.number
  time : ∃ t, r.row.integer? env.config.timeColumn = some t ∧
    (window.first.first ≤ t.toInt ∧ t.toInt ≤ window.last.last) ∧
      (env.buckets window).Spans i t.toInt

/-- **A record spoils a planned series** when it is of the category and lacks the system column,
or belongs to one of the systems and lacks the time column, or counts and lacks a column of the
aggregation. -/
def Spoils (env : Environment) (window : QueryWindow) (p : SeriesPlan) (r : Record) : Prop :=
  r.category = p.series.category.name ∧
    (¬ r.row.contains env.config.systemColumn ∨
      (∃ s ∈ p.definition.systems, r.row.integer? env.config.systemColumn = some s.number) ∧
        (¬ r.row.contains env.config.timeColumn ∨
          (∃ t, r.row.integer? env.config.timeColumn = some t ∧
              window.first.first ≤ t.toInt ∧ t.toInt ≤ window.last.last) ∧
            ∃ c ∈ p.series.aggregation.columns, ¬ r.row.contains c))

variable {env : Environment} {window : QueryWindow} {plans : List SeriesPlan} {p : SeriesPlan}
  {provider : Provider} {r : Record}

theorem bucket?_eq_some_iff {row : Row} {i : Nat} :
    row.bucket? (env.buckets window) env.config.timeColumn = some i ↔
      ∃ t, row.integer? env.config.timeColumn = some t ∧
        (window.first.first ≤ t.toInt ∧ t.toInt ≤ window.last.last) ∧
          (env.buckets window).Spans i t.toInt := by
  unfold Row.bucket? buckets
  rw [Option.bind_eq_some_iff]
  simp only [Buckets.indexOf?_ofWindow_eq_some_iff]

/-- A record counts for a point when the request covers it and it is dated into the bucket. -/
theorem countsAt_iff {i : Nat} :
    env.CountsAt window p i r ↔ (env.request window p).Covers r ∧
      r.row.bucket? (env.buckets window) env.config.timeColumn = some i := by
  rw [bucket?_eq_some_iff]
  refine ⟨?_, ?_⟩
  · intro h
    obtain ⟨t, ht, hwindow, -⟩ := h.time
    exact ⟨⟨h.category, h.system, t, ht, hwindow⟩, h.time⟩
  · rintro ⟨hcovers, htime⟩
    exact ⟨hcovers.category, hcovers.system, htime⟩

instance (env : Environment) (window : QueryWindow) (p : SeriesPlan) (i : Nat) (r : Record) :
    Decidable (env.CountsAt window p i r) :=
  decidable_of_iff _ countsAt_iff.symm

/-- The rows that count for a point, in the order in which they were recorded. -/
def countedRows (env : Environment) (window : QueryWindow) (p : SeriesPlan) (provider : Provider)
    (i : Nat) : List Row :=
  (provider.records.filter (env.CountsAt window p i ·)).map Record.row

/-- **Every covered record counts for exactly one point.** -/
theorem existsUnique_countsAt (h : (env.request window p).Covers r) :
    ∃! i, i < (env.buckets window).count ∧ env.CountsAt window p i r := by
  obtain ⟨t, ht, hfirst, hlast⟩ := h.time
  obtain ⟨i, ⟨hi, hspans⟩, hunique⟩ : ∃! i, i < (env.buckets window).count ∧
    (env.buckets window).Spans i t.toInt := Buckets.existsUnique_spans hfirst hlast
  refine ⟨i, ⟨hi, h.category, h.system, t, ht, ⟨hfirst, hlast⟩, hspans⟩, ?_⟩
  -- The time of the record is one, whichever point it is asked for.
  rintro j ⟨hj, -, -, t', ht', -, hspans'⟩
  obtain rfl := Option.some.inj (ht.symm.trans ht')
  exact hunique j ⟨hj, hspans'⟩

/-- Of the rows that a provider returns, those of a bucket are the rows that count for its point. -/
theorem rowsIn_eq_countedRows {rows : List Row}
    (h : provider.fetch (env.request window p) = .ok rows) :
    rowsIn (env.buckets window) env.config.timeColumn rows = env.countedRows window p provider := by
  obtain ⟨-, rfl⟩ := FetchRequest.rows_eq_ok_iff.mp h
  funext i
  unfold rowsIn countedRows
  rw [List.filter_map, List.filter_filter]
  congr 1
  -- Record by record: the bucket and the window are asked for in the one order and in the other.
  refine List.filter_congr fun r _ => ?_
  rw [Bool.eq_iff_iff]
  simp only [Function.comp_apply, Bool.and_eq_true, decide_eq_true_eq]
  rw [countsAt_iff]
  exact and_comm

/-- The rows that a provider returns, grouped by bucket. -/
theorem perm_countedRows {rows : List Row}
    (h : provider.fetch (env.request window p) = .ok rows) :
    ((List.range (env.buckets window).count).flatMap (env.countedRows window p provider)).Perm
      rows := by
  rw [← rowsIn_eq_countedRows h]
  obtain ⟨-, rfl⟩ := FetchRequest.rows_eq_ok_iff.mp h
  refine perm_flatMap_rowsIn fun row hrow => ?_
  obtain ⟨r, hr, rfl⟩ := List.mem_map.mp hrow
  have hcovers : (env.request window p).Covers r := by simpa using (List.mem_filter.mp hr).2
  obtain ⟨i, ⟨hi, hcounts⟩, -⟩ := existsUnique_countsAt hcovers
  exact ⟨i, hi, (countsAt_iff.mp hcounts).2⟩

/-! ### What can spoil a series -/

theorem spoils_iff :
    env.Spoils window p r ↔ (env.request window p).Obscures r ∨
      (env.request window p).Covers r ∧ ∃ c ∈ p.series.aggregation.columns, ¬ r.row.contains c := by
  -- Both sides ask for the category first and then tell apart three defects: the system, the time
  -- and a lacking column.
  refine ⟨?_, ?_⟩
  · rintro ⟨hcategory, hsystem | ⟨hwanted, htime | ⟨hwindow, hlacks⟩⟩⟩
    · exact .inl ⟨hcategory, .inl hsystem⟩
    · exact .inl ⟨hcategory, .inr ⟨hwanted, htime⟩⟩
    · exact .inr ⟨⟨hcategory, hwanted, hwindow⟩, hlacks⟩
  · rintro (⟨hcategory, hsystem | ⟨hwanted, htime⟩⟩ | ⟨⟨hcategory, hwanted, hwindow⟩, hlacks⟩)
    · exact ⟨hcategory, .inl hsystem⟩
    · exact ⟨hcategory, .inr ⟨hwanted, .inl htime⟩⟩
    · exact ⟨hcategory, .inr ⟨hwanted, .inr ⟨hwindow, hlacks⟩⟩⟩

/-- The slot of a series is filled exactly when no record spoils the series. -/
theorem exists_slotOf_iff_spoils
    (hprovider : env.sources.providerFor p.series.category.template = .ok provider) :
    (∃ s, env.slotOf window p = .ok s) ↔ ∀ r ∈ provider.records, ¬ env.Spoils window p r := by
  rw [exists_slotOf_iff hprovider]
  unfold Provider.fetch
  simp only [FetchRequest.rows_eq_ok_iff, spoils_iff, not_or]
  refine ⟨?_, ?_⟩
  · -- A covered record is dated into a bucket, so its row needs the columns of the aggregation.
    rintro ⟨rows, ⟨hclear, rfl⟩, hrows⟩ r hr
    refine ⟨hclear r hr, ?_⟩
    rintro ⟨hcovers, c, hc, hlacks⟩
    have hmem : r.row ∈ (provider.records.filter
        ((env.request window p).Covers ·)).map Record.row :=
      List.mem_map_of_mem (List.mem_filter.mpr ⟨hr, by simpa using hcovers⟩)
    obtain ⟨i, ⟨-, hcounts⟩, -⟩ := existsUnique_countsAt hcovers
    have hbucket := (countsAt_iff.mp hcounts).2
    exact hlacks ((hrows r.row hmem).2 (by rw [hbucket]; rfl) c hc)
  · -- The rows are those of covered records, which have a time and the columns.
    intro h
    refine ⟨_, ⟨fun r hr => (h r hr).1, rfl⟩, fun row hrow => ?_⟩
    obtain ⟨r, hr, rfl⟩ := List.mem_map.mp hrow
    obtain ⟨hr, hcovers⟩ := List.mem_filter.mp hr
    have hcovers : (env.request window p).Covers r := by simpa using hcovers
    refine ⟨hcovers.contains_time, fun _ c hc => ?_⟩
    by_contra hlacks
    exact (h r hr).2 ⟨hcovers, c, hc, hlacks⟩

/-! ### The series of an answer -/

/-- **A series depicts a plan** over the records of a provider. -/
structure Depicts (env : Environment) (window : QueryWindow) (provider : Provider)
    (p : SeriesPlan) (s : SeriesResult) : Prop where
  name : s.name = p.name
  category : s.category = p.series.category.name
  field : s.field = p.series.field.name
  method : s.method = p.series.method
  systems : s.systems = p.definition.systems.map SystemId.text
  /-- There is a point for each bucket. -/
  length : s.points.length = (env.buckets window).count
  /-- A point stands at the start of its bucket. Its value is the result of a fresh aggregator that
  is fed the rows that count for the point, and nothing else. -/
  point : ∀ i (h : i < s.points.length), s.points[i].timestamp = (env.buckets window).start i ∧
    ∃ a, (Aggregator.start p.series.aggregation).feedAll (env.countedRows window p provider i) =
        .ok a ∧
      s.points[i].value = a.result.map (·.rounded env.config.precision.toNat)
  /-- A point for which no record counts has no value. -/
  blank : ∀ i (h : i < s.points.length), env.countedRows window p provider i = [] →
    s.points[i].value = none
  /-- A record that the request covers counts for exactly one point. -/
  once : ∀ r ∈ provider.records, (env.request window p).Covers r →
    ∃! i, i < s.points.length ∧ env.CountsAt window p i r
  /-- The rows that count for the points are, all together, the rows that the provider returns. -/
  complete : ∃ rows, provider.fetch (env.request window p) = .ok rows ∧
    ((List.range s.points.length).flatMap (env.countedRows window p provider)).Perm rows

theorem render_points_length (s : SeriesSlot) (b : Buckets) (precision : Nat) :
    (s.render b precision).points.length = b.count := by
  simp [SeriesSlot.render, SeriesSlot.points]

/-- A filled slot renders to a series that depicts its plan. -/
theorem depicts_of_slotOf {s : SeriesSlot} (h : env.slotOf window p = .ok s) :
    ∃ provider, env.sources.providerFor p.series.category.template = .ok provider ∧
      env.Depicts window provider p
        (s.render (env.buckets window) env.config.precision.toNat) := by
  obtain ⟨provider, rows, hprovider, hrows, hs, hgathers⟩ := of_slotOf h
  rw [rowsIn_eq_countedRows hrows] at hgathers
  have hfield : s.field = p.series := by rw [hs]; rfl
  have hlength := render_points_length s (env.buckets window) env.config.precision.toNat
  have hpoint : ∀ i (hi : i < (s.render (env.buckets window)
      env.config.precision.toNat).points.length),
      (s.render (env.buckets window) env.config.precision.toNat).points[i] =
        ⟨(env.buckets window).start i, s.valueAt env.config.precision.toNat i⟩ := by
    intro i hi
    simp [SeriesSlot.render, SeriesSlot.points]
  -- Where nothing stands in a bucket, the value is that of an aggregator without rows.
  have hvalue : ∀ i, ∃ a, (Aggregator.start p.series.aggregation).feedAll
      (env.countedRows window p provider i) = .ok a ∧
        s.valueAt env.config.precision.toNat i =
          a.result.map (·.rounded env.config.precision.toNat) := by
    intro i
    rw [← hfield]
    exact ⟨_, hgathers i, SeriesSlot.valueAt_eq s _ i⟩
  refine ⟨provider, hprovider, ?_⟩
  constructor
  case name => rw [hs]; rfl
  case category => rw [hs]; rfl
  case field => rw [hs]; rfl
  case method => rw [hs]; rfl
  case systems => rw [hs]; rfl
  case length => exact hlength
  case point =>
    intro i hi
    rw [hpoint i hi]
    exact ⟨rfl, hvalue i⟩
  case blank =>
    intro i hi hnone
    obtain ⟨a, ha, hresult⟩ := hvalue i
    rw [hnone] at ha
    obtain rfl := Except.ok.inj ha
    rw [hpoint i hi]
    simpa using hresult
  case once =>
    intro r _ hcovers
    rw [hlength]
    exact existsUnique_countsAt hcovers
  case complete =>
    rw [hlength]
    exact ⟨rows, hrows, perm_countedRows hrows⟩

/-- The series of an answer depict the plans, one by one. -/
theorem depicts_of_answer {r : QueryResult} (h : env.answer plans window = .ok r) :
    env.bucketTexts window = .ok r.dateTimes ∧
      List.Forall₂ (fun p s => ∃ provider,
        env.sources.providerFor p.series.category.template = .ok provider ∧
          env.Depicts window provider p s) plans r.series := by
  obtain ⟨-, slots, texts, hslots, htexts, rfl⟩ := answer_eq_ok_iff.mp h
  refine ⟨htexts, List.forall₂_map_right_iff.mpr ?_⟩
  exact (mapM_eq_ok_iff.mp hslots).imp fun p s hs => depicts_of_slotOf hs

/-! ### What can go wrong -/

/-- **A bucket is the first that cannot be dated** when it starts at an instant at which clocks show
nothing, and they show something at the start of each bucket before it. -/
def FirstUndated (env : Environment) (window : QueryWindow) (t : Instant) : Prop :=
  ¬ env.zone.ShowsAt t ∧ ∃ before after, (env.buckets window).starts = before ++ t :: after ∧
    ∀ s ∈ before, env.zone.ShowsAt s

/-- Dating the buckets is refused when the first one that cannot be dated starts out of range. -/
theorem bucketTexts_refused_iff : (∃ e, e ≠ .aborted ∧ env.bucketTexts window = .error e) ↔
    ∃ t, env.FirstUndated window t ∧ ¬ inRange t = true := by
  simp only [bucketTexts_eq_error_iff, Zone.exists_toWall_iff]
  refine ⟨?_, ?_⟩
  · rintro ⟨e, hreturned, before, t, after, hsplit, hbefore, ht⟩
    -- The start that fails has no wall time; it is refused only where it is out of range itself.
    rcases env.zone.toWall_cases t with hw | ⟨-, hout⟩ | ⟨hstopped, -⟩
    · cases hw.symm.trans ht
    · exact ⟨t, ⟨fun hshows => hout hshows.1, before, after, hsplit, hbefore⟩, hout⟩
    · exact absurd (Except.error.inj (ht.symm.trans hstopped)) hreturned
  · rintro ⟨t, ⟨-, before, after, hsplit, hbefore⟩, hout⟩
    rcases env.zone.toWall_cases t with hw | ⟨hfailed, -⟩ | ⟨-, hrange, -⟩
    · exact absurd (Zone.toWall_eq_ok_iff.mp hw).1 hout
    · exact ⟨_, Error.noConfusion, before, t, after, hsplit, hbefore, hfailed⟩
    · exact absurd hrange hout

/-- Dating the buckets stops the program when the first one that cannot be dated starts in range. -/
theorem bucketTexts_aborted_iff : env.bucketTexts window = .error .aborted ↔
    ∃ t, env.FirstUndated window t ∧ inRange t = true := by
  simp only [bucketTexts_eq_error_iff, Zone.exists_toWall_iff]
  refine ⟨?_, ?_⟩
  · rintro ⟨before, t, after, hsplit, hbefore, ht⟩
    -- The other way to have no wall time is to be in range and to show what is not.
    rcases env.zone.toWall_cases t with hw | ⟨hfailed, -⟩ | ⟨-, hrange, hout⟩
    · cases hw.symm.trans ht
    · cases hfailed.symm.trans ht
    · exact ⟨t, ⟨fun hshows => hout hshows.2, before, after, hsplit, hbefore⟩, hrange⟩
  · rintro ⟨t, ⟨hnot, before, after, hsplit, hbefore⟩, hrange⟩
    rcases env.zone.toWall_cases t with hw | ⟨-, hout⟩ | ⟨hstopped, -⟩
    · exact absurd (Zone.exists_toWall_iff.mp ⟨_, hw⟩) hnot
    · exact absurd hrange hout
    · exact ⟨before, t, after, hsplit, hbefore, hstopped⟩

/-- **Planned series are spoilt** when a record in the provider of one of them spoils it. -/
def SpoiltBy (env : Environment) (window : QueryWindow) (plans : List SeriesPlan) : Prop :=
  ∃ p ∈ plans, ∃ provider, env.sources.providerFor p.series.category.template = .ok provider ∧
    ∃ r ∈ provider.records, env.Spoils window p r

/-- The slots of series that have providers can be filled unless a record spoils one of them, and
that is an error. -/
theorem exists_slots_error_iff (hproviders : ∀ p ∈ plans, ∃ provider,
    env.sources.providerFor p.series.category.template = .ok provider) :
    (∃ e, plans.mapM (env.slotOf window) = .error e) ↔ env.SpoiltBy window plans := by
  rw [exists_error_iff, exists_mapM_iff]
  push Not
  refine ⟨?_, ?_⟩
  · -- A slot that cannot be filled has a provider, so a record of that provider is to blame.
    rintro ⟨p, hp, hslot⟩
    obtain ⟨provider, hprovider⟩ := hproviders p hp
    have hspoilt : ¬ ∀ r ∈ provider.records, ¬ env.Spoils window p r := fun hclean =>
      let ⟨s, hs⟩ := (exists_slotOf_iff_spoils hprovider).mpr hclean
      hslot s hs
    push Not at hspoilt
    exact ⟨p, hp, provider, hprovider, hspoilt⟩
  · rintro ⟨p, hp, provider, hprovider, r, hr, hspoils⟩
    refine ⟨p, hp, fun s hs => ?_⟩
    exact (exists_slotOf_iff_spoils hprovider).mp ⟨s, hs⟩ r hr hspoils

/-- The error of a slot does not stop the program. -/
theorem slots_ne_aborted (hproviders : ∀ p ∈ plans, ∃ provider,
    env.sources.providerFor p.series.category.template = .ok provider) :
    plans.mapM (env.slotOf window) ≠ .error .aborted := by
  intro h
  obtain ⟨before, p, after, slots, rfl, -, hslot⟩ := mapM_eq_error_iff.mp h
  obtain ⟨provider, hprovider⟩ := hproviders p (by simp)
  obtain ⟨c, hc⟩ := exists_eq_of_slotOf_eq_error hprovider hslot
  cases hc

/-- **Planned series over a window that is not empty are refused** when a record spoils one of them
or the buckets cannot be dated. -/
theorem answer_refused_iff (hwindow : window.first.first ≤ window.last.last)
    (hproviders : ∀ p ∈ plans, ∃ provider,
      env.sources.providerFor p.series.category.template = .ok provider) :
    (∃ e, e ≠ .aborted ∧ env.answer plans window = .error e) ↔
      env.SpoiltBy window plans ∨ ∃ t, env.FirstUndated window t ∧ ¬ inRange t = true := by
  simp only [answer_eq_error_iff hwindow, ← exists_slots_error_iff hproviders,
    ← bucketTexts_refused_iff]
  refine ⟨?_, ?_⟩
  · rintro ⟨e, hreturned, hslots | ⟨-, htexts⟩⟩
    · exact .inl ⟨e, hslots⟩
    · exact .inr ⟨e, hreturned, htexts⟩
  · rintro (⟨e, hslots⟩ | ⟨e, hreturned, htexts⟩)
    · exact ⟨e, fun he => slots_ne_aborted hproviders (he ▸ hslots), .inl hslots⟩
    · -- Where a slot cannot be filled either, its error comes first.
      cases hslots : plans.mapM (env.slotOf window) with
      | ok slots => exact ⟨e, hreturned, .inr ⟨⟨slots, rfl⟩, htexts⟩⟩
      | error e' =>
        exact ⟨e', fun he => slots_ne_aborted hproviders (he ▸ hslots), .inl rfl⟩

/-- The program is stopped over them when no record spoils one of them, and the first bucket that
cannot be dated starts in range. -/
theorem answer_aborted_iff (hwindow : window.first.first ≤ window.last.last)
    (hproviders : ∀ p ∈ plans, ∃ provider,
      env.sources.providerFor p.series.category.template = .ok provider) :
    env.answer plans window = .error .aborted ↔
      ¬ env.SpoiltBy window plans ∧ ∃ t, env.FirstUndated window t ∧ inRange t = true := by
  rw [answer_eq_error_iff hwindow, bucketTexts_aborted_iff, ← exists_slots_error_iff hproviders,
    exists_error_iff, not_not]
  exact or_iff_right (slots_ne_aborted hproviders)

/-! ### The answer to a query -/

/-- **The meaning of a query.** The series of an answer depict the plans of the query, one by one.

A query that is planned, has a window that is not empty and finds the providers of its series is
refused exactly when a record spoils one of the series, or when the first bucket that cannot be
dated starts out of range. The program is stopped over it exactly when there is no such record, and
the first bucket that cannot be dated starts in range. -/
theorem depicts_and_error_iff (env : Environment) (text first last : String)
    (aliases : Option String) :
    (∀ r, env.evaluate text first last aliases = .ok r → ∃ plans window,
      env.plan text aliases = .ok plans ∧ env.window first last = .ok window ∧
        env.bucketTexts window = .ok r.dateTimes ∧
        List.Forall₂ (fun p s => ∃ provider,
          env.sources.providerFor p.series.category.template = .ok provider ∧
            env.Depicts window provider p s) plans r.series) ∧
    ∀ plans window, env.plan text aliases = .ok plans → env.window first last = .ok window →
      (∀ p ∈ plans, ∃ provider,
        env.sources.providerFor p.series.category.template = .ok provider) →
      window.first.first ≤ window.last.last →
      ((∃ e, e ≠ .aborted ∧ env.evaluate text first last aliases = .error e) ↔
        env.SpoiltBy window plans ∨ ∃ t, env.FirstUndated window t ∧ ¬ inRange t = true) ∧
      (env.evaluate text first last aliases = .error .aborted ↔
        ¬ env.SpoiltBy window plans ∧ ∃ t, env.FirstUndated window t ∧ inRange t = true) := by
  refine ⟨fun r hr => ?_, fun plans window hplan hwindow hproviders hordered => ?_⟩
  · obtain ⟨plans, window, hplan, hwindow, hanswer⟩ := evaluate_eq_ok_iff.mp hr
    exact ⟨plans, window, hplan, hwindow, depicts_of_answer hanswer⟩
  · -- Once the query is planned and has a window, its evaluation is the answer to its series.
    have hevaluate : env.evaluate text first last aliases = env.answer plans window := by
      unfold evaluate
      rw [hplan, ok_bind, hwindow, ok_bind]
    rw [hevaluate]
    exact ⟨answer_refused_iff hordered hproviders, answer_aborted_iff hordered hproviders⟩

/-! ### An environment at which both kinds of answer occur -/

/-- A database with one counter, kept by a provider with the given records, in which a day makes
two points. -/
def sample (records : List Record) : Environment where
  sources :=
    { registry := ⟨SortedMap.empty.insert "Interval"
        ⟨"Interval", [(Field.new "hits" "Hits" .sum).offer .sum (.sum "Hits" .integer)]⟩⟩
      providers := SortedMap.empty.insert "Interval" ⟨"Interval", records⟩ }
  database := { id := "ABCD-EFGH" }
  membership := .empty
  config := { maxPoints := 2 }
  zone := .utc

/-- The plan of the counter for the first system. -/
def samplePlan : SeriesPlan where
  name := "ABCD-EFGH.1~Interval.A~hits"
  definition := ⟨none, [⟨"ABCD-EFGH", 1⟩], "Interval.A", "hits"⟩
  series :=
    { method := .sum
      category := ⟨"Interval", "Interval.A"⟩
      field := (Field.new "hits" "Hits" .sum).offer .sum (.sum "Hits" .integer)
      aggregation := .sum "Hits" .integer }
  columns := ["Hits"]

/-- A record of the first system in the afternoon of the last day of 1999. -/
def sampleRecord : Record where
  category := "Interval.A"
  row := SortedMap.ofList [("SystemID", some (.int 1)), ("EndTime", some (.int 946645200000)),
    ("Hits", some (.int 5))]

/-- A record that lacks the counter. -/
def tornRecord : Record where
  category := "Interval.A"
  row := SortedMap.ofList [("SystemID", some (.int 1)), ("EndTime", some (.int 946645200000))]

/-- Without records, and where clocks are an hour ahead of universal time. -/
def sampleAhead : Environment :=
  { sample [] with
    zone := ⟨"CET-1CEST,M3.5.0,M10.5.0/3", 3600, some ⟨3600, ⟨3, .last, 2⟩, ⟨10, .last, 3⟩⟩⟩ }

/-- The record counts for the second point of the day, and a record without the counter makes the
query fail. Where clocks are ahead, a point may be in the last hour of the range, of which they show
what is out of range. -/
theorem depicts_and_error_iff_sample :
    (∃ r, (sample [sampleRecord]).evaluate "ABCD-EFGH.1~Interval.A~hits" "1999-12-31"
        "1999-12-31" none = .ok r ∧
      ∃ plans window, (sample [sampleRecord]).bucketTexts window = .ok r.dateTimes ∧
        List.Forall₂ (fun p s => ∃ provider,
          (sample [sampleRecord]).sources.providerFor p.series.category.template = .ok provider ∧
            (sample [sampleRecord]).Depicts window provider p s) plans r.series) ∧
    (∃ e, e ≠ .aborted ∧ (sample [sampleRecord, tornRecord]).evaluate
      "ABCD-EFGH.1~Interval.A~hits" "1999-12-31" "1999-12-31" none = .error e) ∧
    sampleAhead.evaluate "ABCD-EFGH.1~Interval.A~hits" "9999-12-31\x7b+2210240172H\x7d"
      "9999-12-31\x7b+2210240172H\x7d" none = .error .aborted := by
  refine ⟨?_, ?_, ?_⟩
  · have hok : ((sample [sampleRecord]).evaluate "ABCD-EFGH.1~Interval.A~hits" "1999-12-31"
        "1999-12-31" none).isOk = true := by decide +kernel
    obtain ⟨r, hr⟩ := isOk_iff.mp hok
    obtain ⟨plans, window, -, -, htexts, hdepicts⟩ :=
      (depicts_and_error_iff (sample [sampleRecord]) "ABCD-EFGH.1~Interval.A~hits" "1999-12-31"
        "1999-12-31" none).1 r hr
    exact ⟨r, hr, plans, window, htexts, hdepicts⟩
  · let day : Span := ⟨none, "1999-12-31", 946598400000, 946684799999, .day⟩
    have hprovider : (sample [sampleRecord, tornRecord]).sources.providerFor "Interval" =
        .ok ⟨"Interval", [sampleRecord, tornRecord]⟩ := rfl
    refine ((depicts_and_error_iff (sample [sampleRecord, tornRecord])
      "ABCD-EFGH.1~Interval.A~hits" "1999-12-31" "1999-12-31" none).2 [samplePlan] ⟨day, day⟩
        (by decide +kernel) (by decide +kernel) ?_ (by decide)).1.mpr (.inl ?_)
    · intro p hp
      obtain rfl := List.mem_singleton.mp hp
      exact ⟨_, hprovider⟩
    · refine ⟨samplePlan, by simp, _, hprovider, tornRecord, by simp, by decide +kernel,
        .inr ⟨?_, .inr ⟨?_, ?_⟩⟩⟩
      · exact ⟨⟨"ABCD-EFGH", 1⟩, by simp [samplePlan], by decide +kernel⟩
      · exact ⟨946645200000, by decide +kernel, by decide, by decide⟩
      · exact ⟨"Hits", by simp [samplePlan, Aggregation.columns], by decide +kernel⟩
  · let day : Span := ⟨none, "+262142-12-31", 8210266830000000, 8210266916399999, .day⟩
    have hprovider : sampleAhead.sources.providerFor "Interval" = .ok ⟨"Interval", []⟩ := rfl
    refine ((depicts_and_error_iff sampleAhead "ABCD-EFGH.1~Interval.A~hits"
      "9999-12-31\x7b+2210240172H\x7d" "9999-12-31\x7b+2210240172H\x7d" none).2 [samplePlan]
        ⟨day, day⟩ (by decide +kernel) (by decide +kernel) ?_ (by decide)).2.mpr ⟨?_, ?_⟩
    · intro p hp
      obtain rfl := List.mem_singleton.mp hp
      exact ⟨_, hprovider⟩
    · rintro ⟨p, hp, provider, hprovider', r, hr, -⟩
      obtain rfl := List.mem_singleton.mp hp
      obtain rfl := Except.ok.inj (hprovider.symm.trans hprovider')
      exact absurd hr List.not_mem_nil
    · -- Of the two points, the first one can be dated.
      refine ⟨8210266873200000, ⟨by unfold Zone.ShowsAt; decide +kernel, [8210266830000000], [],
        by decide +kernel, ?_⟩, by decide⟩
      intro t ht
      obtain rfl := List.mem_singleton.mp ht
      unfold Zone.ShowsAt
      decide +kernel

/-- **Records are not the only cause of failure.** The last day in range, taken from noon to noon,
ends beyond the latest instant, and its second half starts there: without any record at all, the
query is planned, has a window, finds its provider, and fails. -/
theorem not_error_iff_spoils :
    ¬ ∀ (env : Environment) (text first last : String) (aliases : Option String)
      (plans : List SeriesPlan) (window : QueryWindow), env.plan text aliases = .ok plans →
      env.window first last = .ok window →
      (∀ p ∈ plans, ∃ provider,
        env.sources.providerFor p.series.category.template = .ok provider) →
      window.first.first ≤ window.last.last →
      ((∃ e, env.evaluate text first last aliases = .error e) ↔
        ∃ p ∈ plans, ∃ provider,
          env.sources.providerFor p.series.category.template = .ok provider ∧
            ∃ r ∈ provider.records, env.Spoils window p r) := by
  intro h
  -- There are no records at all, and the second of two buckets starts out of range.
  let day : Span := ⟨none, "+262142-12-31", 8210266833600000, 8210266919999999, .day⟩
  have hprovider : (sample []).sources.providerFor "Interval" = .ok ⟨"Interval", []⟩ := rfl
  have hproviders : ∀ p ∈ [samplePlan], ∃ provider,
      (sample []).sources.providerFor p.series.category.template = .ok provider := by
    intro p hp
    obtain rfl := List.mem_singleton.mp hp
    exact ⟨_, hprovider⟩
  have hfails : ((sample []).evaluate "ABCD-EFGH.1~Interval.A~hits"
      "9999-12-31\x7b+2210240172H\x7d" "9999-12-31\x7b+2210240172H\x7d" none).isOk = false := by
    decide +kernel
  have herror := exists_error_iff.mpr fun hok => by
    rw [← isOk_iff, hfails] at hok
    exact absurd hok Bool.false_ne_true
  obtain ⟨p, hp, provider, hprovider', r, hr, -⟩ := (h (sample []) "ABCD-EFGH.1~Interval.A~hits"
    "9999-12-31\x7b+2210240172H\x7d" "9999-12-31\x7b+2210240172H\x7d" none [samplePlan]
    ⟨day, day⟩ (by decide +kernel) (by decide +kernel) hproviders (by decide)).mp herror
  obtain rfl := List.mem_singleton.mp hp
  obtain rfl := Except.ok.inj (hprovider.symm.trans hprovider')
  exact absurd hr List.not_mem_nil

end Environment

end MetricSeries
