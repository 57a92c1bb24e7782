import MetricSeries.Proofs.Query.Meaning
import MetricSeries.Proofs.Query.Partition
import MetricSeries.Proofs.Time.WholeMinutes

/-!
# Points of one minute

Which records count for a point is said by way of the window: the window decides where the buckets
start, how wide they are, and where the last one is cut short. If the window has no more minutes
than a series may have points, nothing of this is left. Buckets are then one minute wide
(`Buckets.widthFor_eq_one`), and as the window starts and ends with whole minutes, every bucket is
one of them and none is cut short (`Environment.ByMinute.exists_start_iff`). So a record counts for
a point because of the minute that the record is dated into, whatever the window
(`Environment.ByMinute.countsAt_iff`).

The main result is `Environment.evaluate_minute_points`: the answers to a query over two such
windows have the same values at all the minutes that the windows share.
-/

namespace MetricSeries

open Fallible Time

/-! ### Buckets of one minute -/

namespace Buckets

variable {first last : Instant} {maxPoints : Nat}

/-- **Buckets are one minute wide** where the minutes are no more than the limit on points. This is
so of every limit of 64 bits, also where it is read as a negative number. -/
theorem widthFor_eq_one {m : Int} (hm : 1 ≤ m) (hfits : m ≤ maxPoints)
    (hsize : maxPoints < UInt64.size) : widthFor m maxPoints = 1 := by
  have hlimit : max (maxPoints : Int) 1 = maxPoints := Int.max_eq_left (by omega)
  unfold widthFor
  dsimp only
  rw [hlimit]
  refine Int.max_eq_left ?_
  unfold UInt64.size at *
  by_cases hsigned : maxPoints < 9223372036854775808
  · have hread : (maxPoints : Int).bmod 18446744073709551616 = maxPoints :=
      Int.bmod_eq_of_le (by omega) (by omega)
    rw [hread, Int.tdiv_eq_ediv_of_nonneg (by omega), Int.ediv_le_iff_le_mul (by omega)]
    omega
  · -- The limit is read as the negative of `k`, and the minutes are at least one, so `k` is at
    -- least what is divided by it.
    obtain ⟨k, hk⟩ : ∃ k : Int, k = 18446744073709551616 - maxPoints := ⟨_, rfl⟩
    have hread : (maxPoints : Int).bmod 18446744073709551616 = -k := by
      rw [Int.bmod_def]
      omega
    rw [hread, Int.tdiv_neg, ← Int.neg_tdiv]
    calc (-(m + -k - 1)).tdiv k ≤ k.tdiv k := Int.tdiv_le_tdiv (by omega) (by omega)
      _ = 1 := Int.tdiv_self (by omega)

theorem ofWindow_width_of_fits (hwindow : first ≤ last) (hfits : minutes first last ≤ maxPoints)
    (hsize : maxPoints < UInt64.size) : (ofWindow first last maxPoints).width = minuteMillis := by
  show widthFor (minutes first last) maxPoints * minuteMillis = minuteMillis
  rw [widthFor_eq_one (one_le_minutes hwindow) hfits hsize, Int.one_mul]

end Buckets

/-! ### Agreement -/

/-- **A series has a point at every minute of a window**, and nowhere else. -/
def SeriesResult.AtMinutesOf (s : SeriesResult) (window : QueryWindow) : Prop :=
  ∀ t, (∃ p ∈ s.points, p.timestamp = t) ↔
    (window.first.first ≤ t ∧ t ≤ window.last.last) ∧ t % minuteMillis = 0

/-- **Two series agree** when they are the same but for their points, and wherever both have a
point, both points have the same value. -/
structure SeriesResult.Agrees (s s' : SeriesResult) : Prop where
  heading : { s with points := [] } = { s' with points := [] }
  value : ∀ p ∈ s.points, ∀ p' ∈ s'.points, p.timestamp = p'.timestamp → p.value = p'.value

/-- What two lists have in common with a third one, place by place, relates them to each other. -/
theorem forall₂_of_common {α β γ : Type} {R : α → β → Prop} {S : α → γ → Prop} {T : β → γ → Prop}
    {as : List α} {bs : List β} {cs : List γ} (hT : ∀ a b c, R a b → S a c → T b c)
    (h : List.Forall₂ R as bs) (h' : List.Forall₂ S as cs) : List.Forall₂ T bs cs := by
  induction h generalizing cs with
  | nil =>
    cases h'
    exact .nil
  | cons hab h ih =>
    obtain _ | ⟨hac, h'⟩ := h'
    exact .cons (hT _ _ _ hab hac) (ih h')

namespace Environment

variable {env : Environment} {window window' : QueryWindow} {plans : List SeriesPlan}
  {p : SeriesPlan} {provider : Provider} {r : Record} {s s' : SeriesResult} {i j : Nat}

/-! ### Windows of whole minutes -/

/-- **A window that is answered minute by minute**: it is made up of whole minutes, at least one of
them and no more than a series may have points. -/
structure ByMinute (env : Environment) (window : QueryWindow) : Prop where
  first : window.first.first % minuteMillis = 0
  last : window.last.last % minuteMillis = minuteMillis - 1
  ordered : window.first.first ≤ window.last.last
  fits : Buckets.minutes window.first.first window.last.last ≤ env.config.maxPoints.toNat

/-- **Every window starts and ends with whole minutes**, whatever the texts that it is resolved
from. -/
theorem byMinute_of_window {first last : String} (hzone : env.zone ∈ Zone.all)
    (hwindow : env.window first last = .ok window)
    (hordered : window.first.first ≤ window.last.last)
    (hfits : Buckets.minutes window.first.first window.last.last ≤ env.config.maxPoints.toNat) :
    env.ByMinute window := by
  unfold Environment.window at hwindow
  obtain ⟨s, hs, hwindow⟩ := bind_eq_ok_iff.mp hwindow
  obtain ⟨s', hs', hwindow⟩ := bind_eq_ok_iff.mp hwindow
  obtain rfl := Except.ok.inj hwindow
  exact ⟨(Span.whole_of_parseAdjusted hzone hs).first, (Span.whole_of_parseAdjusted hzone hs').last,
    hordered, hfits⟩

namespace ByMinute

variable (h : env.ByMinute window)

include h

theorem width_eq : (env.buckets window).width = minuteMillis :=
  Buckets.ofWindow_width_of_fits h.ordered h.fits env.config.maxPoints.toNat_lt

theorem start_eq (i : Nat) :
    (env.buckets window).start i = window.first.first + i * minuteMillis := by
  unfold Buckets.start
  rw [h.width_eq]
  rfl

/-- **A bucket is a minute of the window**, and none of it lies outside. -/
theorem start_mem (hi : i < (env.buckets window).count) :
    window.first.first ≤ (env.buckets window).start i ∧
      (env.buckets window).start i + minuteMillis ≤ window.last.last + 1 ∧
      (env.buckets window).start i % minuteMillis = 0 := by
  have hlast : (env.buckets window).start i ≤ window.last.last :=
    (Buckets.start_le_iff h.ordered i).mpr hi
  have hfirst := h.first
  have hend := h.last
  -- The bucket starts with a whole minute before the window ends, and the window ends with one.
  rw [h.start_eq] at hlast ⊢
  unfold Instant minuteMillis at *
  omega

/-- **The points of a series stand at the minutes of the window**, one at each. -/
theorem exists_start_iff {t : Instant} :
    (∃ i < (env.buckets window).count, (env.buckets window).start i = t) ↔
      (window.first.first ≤ t ∧ t ≤ window.last.last) ∧ t % minuteMillis = 0 := by
  refine ⟨?_, ?_⟩
  · rintro ⟨i, hi, rfl⟩
    obtain ⟨hfirst, hlast, hminute⟩ := h.start_mem hi
    refine ⟨⟨hfirst, ?_⟩, hminute⟩
    unfold Instant minuteMillis at *
    omega
  · rintro ⟨⟨hfirst, hlast⟩, hminute⟩
    -- The minute is as many minutes behind the start of the window as its number says.
    obtain ⟨n, hn⟩ : ∃ n : Nat, t = window.first.first + n * minuteMillis := by
      have haligned := h.first
      refine ⟨((t - window.first.first) / minuteMillis).toNat, ?_⟩
      unfold Instant minuteMillis at *
      omega
    rw [← h.start_eq] at hn
    subst hn
    exact ⟨n, (Buckets.start_le_iff h.ordered n).mp hlast, rfl⟩

end ByMinute

/-! ### Records of a minute -/

/-- **A record is one of a minute** for a planned series when it is of the series' category, belongs
to one of its systems and is dated into the minute. -/
structure DatedInto (env : Environment) (p : SeriesPlan) (minute : Instant) (r : Record) :
    Prop where
  category : r.category = p.series.category.name
  system : ∃ s ∈ p.definition.systems,
    r.row.integer? env.config.systemColumn = some s.number
  time : ∃ t, r.row.integer? env.config.timeColumn = some t ∧
    minute ≤ t.toInt ∧ t.toInt < minute + minuteMillis

/-- **The minute alone decides** what counts for a point. -/
theorem ByMinute.countsAt_iff (h : env.ByMinute window) (hi : i < (env.buckets window).count) :
    env.CountsAt window p i r ↔ env.DatedInto p ((env.buckets window).start i) r := by
  obtain ⟨hfirst, hlast, -⟩ := h.start_mem hi
  refine ⟨?_, ?_⟩
  · rintro ⟨hcategory, hsystem, t, ht, -, hspans⟩
    unfold Buckets.Spans at hspans
    rw [h.width_eq] at hspans
    exact ⟨hcategory, hsystem, t, ht, hspans⟩
  · rintro ⟨hcategory, hsystem, t, ht, hspans⟩
    refine ⟨hcategory, hsystem, t, ht, ?_, ?_⟩
    · -- No part of the minute is outside the window.
      obtain ⟨hstart, hend⟩ := hspans
      unfold Instant at *
      omega
    · unfold Buckets.Spans
      rwa [h.width_eq]

/-- Over two windows, the same rows count for two points of the same minute. -/
theorem ByMinute.countedRows_eq (h : env.ByMinute window) (h' : env.ByMinute window')
    (hi : i < (env.buckets window).count) (hj : j < (env.buckets window').count)
    (hminute : (env.buckets window).start i = (env.buckets window').start j) :
    env.countedRows window p provider i = env.countedRows window' p provider j := by
  unfold countedRows
  refine congrArg _ (List.filter_congr fun r _ => decide_eq_decide.mpr ?_)
  rw [h.countsAt_iff hi, h'.countsAt_iff hj, hminute]

/-! ### Series over two windows -/

/-- The series of a plan has a point at every minute of the window. -/
theorem Depicts.atMinutesOf (hs : env.Depicts window provider p s) (h : env.ByMinute window) :
    s.AtMinutesOf window := by
  intro t
  -- The minutes are the starts of the buckets, and each point stands at one of these.
  rw [← h.exists_start_iff]
  refine ⟨?_, ?_⟩
  · rintro ⟨point, hpoint, rfl⟩
    obtain ⟨i, hi, rfl⟩ := List.mem_iff_getElem.mp hpoint
    exact ⟨i, hs.length ▸ hi, (hs.point i hi).1.symm⟩
  · rintro ⟨i, hi, rfl⟩
    have hi' : i < s.points.length := hs.length.symm ▸ hi
    exact ⟨s.points[i], List.getElem_mem hi', (hs.point i hi').1⟩

/-- **The series of a plan over two windows agree.** -/
theorem Depicts.agrees (hs : env.Depicts window provider p s)
    (hs' : env.Depicts window' provider p s') (h : env.ByMinute window)
    (h' : env.ByMinute window') : s.Agrees s' where
  heading := by
    rw [SeriesResult.mk.injEq]
    exact ⟨hs.name.trans hs'.name.symm, hs.category.trans hs'.category.symm,
      hs.field.trans hs'.field.symm, hs.method.trans hs'.method.symm,
      hs.systems.trans hs'.systems.symm, rfl⟩
  value := by
    intro point hpoint point' hpoint' hminute
    obtain ⟨i, hi, rfl⟩ := List.mem_iff_getElem.mp hpoint
    obtain ⟨j, hj, rfl⟩ := List.mem_iff_getElem.mp hpoint'
    obtain ⟨hstart, a, ha, hvalue⟩ := hs.point i hi
    obtain ⟨hstart', a', ha', hvalue'⟩ := hs'.point j hj
    rw [hstart, hstart'] at hminute
    -- A fresh aggregator is fed the same rows for both points.
    rw [h.countedRows_eq h' (hs.length ▸ hi) (hs'.length ▸ hj) hminute, ha'] at ha
    obtain rfl := Except.ok.inj ha
    rw [hvalue, hvalue']

/-- **The answers to planned series over two windows** agree series by series. -/
theorem answer_agrees {r r' : QueryResult} (h : env.ByMinute window) (h' : env.ByMinute window')
    (hr : env.answer plans window = .ok r) (hr' : env.answer plans window' = .ok r') :
    List.Forall₂ (fun s s' => s.Agrees s' ∧ s.AtMinutesOf window ∧ s'.AtMinutesOf window')
      r.series r'.series := by
  obtain ⟨-, hseries⟩ := depicts_of_answer hr
  obtain ⟨-, hseries'⟩ := depicts_of_answer hr'
  refine forall₂_of_common ?_ hseries hseries'
  -- The two runs resolve the plan alike, so they ask the same provider.
  rintro p s s' ⟨provider, hprovider, hs⟩ ⟨provider', hprovider', hs'⟩
  obtain rfl := Except.ok.inj (hprovider.symm.trans hprovider')
  exact ⟨hs.agrees hs' h h', hs.atMinutesOf h, hs'.atMinutesOf h'⟩

/-- **A point of one minute does not depend on the window around it.** In every environment of a
known zone, let a query be answered over two windows, neither of which has more minutes than a
series may have points. Then every series of one answer agrees with that of the other: it has a
point at every minute of its window and nowhere else, and at every minute that the windows share,
both have the same value. -/
theorem evaluate_minute_points (env : Environment) (text first last first' last' : String)
    (aliases : Option String) (window window' : QueryWindow) (r r' : QueryResult)
    (hzone : env.zone ∈ Zone.all) (hwindow : env.window first last = .ok window)
    (hwindow' : env.window first' last' = .ok window')
    (hfits : Buckets.minutes window.first.first window.last.last ≤ env.config.maxPoints.toNat)
    (hfits' : Buckets.minutes window'.first.first window'.last.last ≤ env.config.maxPoints.toNat)
    (hr : env.evaluate text first last aliases = .ok r)
    (hr' : env.evaluate text first' last' aliases = .ok r') :
    List.Forall₂ (fun s s' => s.Agrees s' ∧ s.AtMinutesOf window ∧ s'.AtMinutesOf window')
      r.series r'.series := by
  -- Both runs have the same plans, as a plan knows nothing of the window.
  obtain ⟨plans, w, hplan, hw, hanswer⟩ := evaluate_eq_ok_iff.mp hr
  obtain ⟨plans', w', hplan', hw', hanswer'⟩ := evaluate_eq_ok_iff.mp hr'
  obtain rfl := Except.ok.inj (hplan.symm.trans hplan')
  obtain rfl := Except.ok.inj (hwindow.symm.trans hw)
  obtain rfl := Except.ok.inj (hwindow'.symm.trans hw')
  obtain ⟨hordered, -⟩ := answer_eq_ok_iff.mp hanswer
  obtain ⟨hordered', -⟩ := answer_eq_ok_iff.mp hanswer'
  exact answer_agrees (byMinute_of_window hzone hwindow hordered hfits)
    (byMinute_of_window hzone hwindow' hordered' hfits') hanswer hanswer'

/-- Of a window of two minutes and the one that starts a minute later, both have a point at one
o'clock, where a record is dated. -/
theorem evaluate_minute_points_sample :
    ∃ r r', (sample [sampleRecord]).evaluate "ABCD-EFGH.1~Interval.A~hits" "1999-12-31T12:59"
        "1999-12-31T13:00" none = .ok r ∧
      (sample [sampleRecord]).evaluate "ABCD-EFGH.1~Interval.A~hits" "1999-12-31T13:00"
        "1999-12-31T13:01" none = .ok r' ∧
      (r.series.map fun s => s.points.map SeriesPoint.timestamp) =
        [[946645140000, 946645200000]] ∧
      (r'.series.map fun s => s.points.map SeriesPoint.timestamp) =
        [[946645200000, 946645260000]] ∧
      List.Forall₂ SeriesResult.Agrees r.series r'.series := by
  -- Two windows of two minutes that have one minute in common.
  have hok : ((sample [sampleRecord]).evaluate "ABCD-EFGH.1~Interval.A~hits" "1999-12-31T12:59"
      "1999-12-31T13:00" none >>= fun r => pure (r.series.map fun s =>
        s.points.map SeriesPoint.timestamp)) = .ok [[946645140000, 946645200000]] := by
    decide +kernel
  have hok' : ((sample [sampleRecord]).evaluate "ABCD-EFGH.1~Interval.A~hits" "1999-12-31T13:00"
      "1999-12-31T13:01" none >>= fun r => pure (r.series.map fun s =>
        s.points.map SeriesPoint.timestamp)) = .ok [[946645200000, 946645260000]] := by
    decide +kernel
  obtain ⟨r, hr, hpoints⟩ := bind_eq_ok_iff.mp hok
  obtain ⟨r', hr', hpoints'⟩ := bind_eq_ok_iff.mp hok'
  refine ⟨r, r', hr, hr', Except.ok.inj hpoints, Except.ok.inj hpoints', ?_⟩
  have hagrees := evaluate_minute_points (sample [sampleRecord]) "ABCD-EFGH.1~Interval.A~hits"
    "1999-12-31T12:59" "1999-12-31T13:00" "1999-12-31T13:00" "1999-12-31T13:01" none
    ⟨⟨none, "1999-12-31T12:59", 946645140000, 946645199999, .minute⟩,
      ⟨none, "1999-12-31T13:00", 946645200000, 946645259999, .minute⟩⟩
    ⟨⟨none, "1999-12-31T13:00", 946645200000, 946645259999, .minute⟩,
      ⟨none, "1999-12-31T13:01", 946645260000, 946645319999, .minute⟩⟩ r r'
    (by decide +kernel) (by decide +kernel) (by decide +kernel) (by decide +kernel)
    (by decide +kernel) hr hr'
  exact hagrees.imp fun s s' h => h.1

end Environment

end MetricSeries
