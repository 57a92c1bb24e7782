import MetricSeries.Proofs.Definition.Grammar
import MetricSeries.Proofs.Query.Meaning

/-!
# A query is made of its clauses

Two definition texts with a separator between them are one text whose clauses are those of the first
and then those of the second. Nothing in the answer to a query depends on two clauses at once, so
the query for the one text is answered exactly when those for the two texts are, and its series are
theirs, one list behind the other (`Environment.evaluate_append`).

Three lists are cut at the same place on the way: the clauses (`Definition.clauses_append`), the
plans (`Environment.planAll_append`) and the slots (`Environment.answer_append`). Only the plans
need care. Aliases are handed out by position to the clauses that are not blank, while a text of
aliases is cut at every separator; the second text finds its own aliases when the first has as many
of them as clauses, or when there are none at all (`Environment.JoinedAliases`).
-/

namespace MetricSeries

open Fallible Time

/-! ### Definitions -/

namespace Definition

variable {db : Database} {m : Membership} {a b : String}

theorem toList_append_separator (a b : String) :
    (a ++ "_" ++ b).toList = a.toList ++ clauseSeparator :: b.toList := by
  rw [String.toList_append, String.toList_append, List.append_assoc]
  rfl

theorem clauses_append (a b : String) :
    clauses (a ++ "_" ++ b).toList = clauses a.toList ++ clauses b.toList := by
  unfold clauses
  rw [toList_append_separator, Text.parts_append_cons, List.filter_append]

theorem parse_append (ha : clauses a.toList ≠ []) (hb : clauses b.toList ≠ []) :
    parse db m (a ++ "_" ++ b) =
      parse db m a >>= fun ds => parse db m b >>= fun ds' => .ok (ds ++ ds') := by
  have hne : clauses (a ++ "_" ++ b).toList ≠ [] := by
    rw [clauses_append]
    exact List.append_ne_nil_of_left_ne_nil ha _
  rw [parse_of_clauses_ne_nil hne, parse_of_clauses_ne_nil ha, parse_of_clauses_ne_nil hb,
    clauses_append, List.mapM_append]
  rfl

theorem length_of_parse {ds : List Definition} (h : parse db m a = .ok ds) :
    (clauses a.toList).length = ds.length :=
  (parse_eq_ok_iff.mp h).2.length_eq

end Definition

/-- **An answer joins two answers** when its series are those of the one and then those of the
other, all over the same points in time. -/
structure QueryResult.Joins (r r₁ r₂ : QueryResult) : Prop where
  left : r.dateTimes = r₁.dateTimes
  right : r.dateTimes = r₂.dateTimes
  series : r.series = r₁.series ++ r₂.series

namespace Environment

variable {env : Environment} {window : QueryWindow} {ps ps₁ ps₂ : List SeriesPlan}
  {ds ds' : List Definition} {as as' : List (List Char)} {a b : String}
  {aliases aliases₁ aliases₂ : Option String}

/-! ### Plans -/

theorem planAll_nil (as : List (List Char)) : env.planAll as [] = .ok [] := by
  cases as <;> rfl

theorem planAll_cons (as : List (List Char)) (d : Definition) (ds : List Definition) :
    env.planAll as (d :: ds) =
      env.planSeries as.head? d >>= fun p =>
        env.planAll as.tail ds >>= fun ps => .ok (p :: ps) := by
  cases as <;> rfl

/-- Aliases in front of others go to the definitions in front of others, as many as there are. -/
theorem planAll_append (h : as.length = ds.length ∨ as ++ as' = []) :
    env.planAll (as ++ as') (ds ++ ds') =
      env.planAll as ds >>= fun ps => env.planAll as' ds' >>= fun ps' => .ok (ps ++ ps') := by
  induction ds generalizing as with
  | nil =>
    have has : as = [] := by
      rcases h with hlength | hnil
      · exact List.length_eq_zero_iff.mp hlength
      · exact (List.append_eq_nil_iff.mp hnil).1
    subst has
    rw [planAll_nil, ok_bind]
    simp only [List.nil_append]
    cases env.planAll as' ds' <;> rfl
  | cons d ds ih =>
    -- The first definition takes the first alias of all, if there is one.
    obtain ⟨hhead, htail, hrest⟩ : (as ++ as').head? = as.head? ∧
        (as ++ as').tail = as.tail ++ as' ∧
          (as.tail.length = ds.length ∨ as.tail ++ as' = []) := by
      rcases h with hlength | hnil
      · obtain ⟨x, xs, rfl⟩ := List.exists_cons_of_length_eq_add_one hlength
        exact ⟨rfl, rfl, .inl (Nat.succ.inj hlength)⟩
      · obtain ⟨rfl, rfl⟩ := List.append_eq_nil_iff.mp hnil
        exact ⟨rfl, rfl, .inr rfl⟩
    rw [List.cons_append, planAll_cons, planAll_cons, hhead, htail, ih hrest]
    simp only [bind_assoc, ok_bind, List.cons_append]

/-- **The aliases of joined texts**: there are none, or the first text has as many aliases as
clauses, and the aliases of the two are joined as well. -/
inductive JoinedAliases (a : String) : Option String → Option String → Option String → Prop where
  | none : JoinedAliases a none none none
  | some {x y : String}
      (length : (Text.parts clauseSeparator x.toList).length =
        (Definition.clauses a.toList).length) :
      JoinedAliases a (some x) (some y) (some (x ++ "_" ++ y))

theorem JoinedAliases.aliasList_eq (h : JoinedAliases a aliases₁ aliases₂ aliases) :
    aliasList aliases = aliasList aliases₁ ++ aliasList aliases₂ ∧
      ((aliasList aliases₁).length = (Definition.clauses a.toList).length ∨
        aliasList aliases₁ ++ aliasList aliases₂ = []) := by
  cases h with
  | none => exact ⟨rfl, .inr rfl⟩
  | @some x y length =>
    refine ⟨?_, .inl length⟩
    simp only [aliasList]
    rw [Definition.toList_append_separator, Text.parts_append_cons]

theorem plan_append_eq_ok_iff (ha : Definition.clauses a.toList ≠ [])
    (hb : Definition.clauses b.toList ≠ []) (h : JoinedAliases a aliases₁ aliases₂ aliases) :
    env.plan (a ++ "_" ++ b) aliases = .ok ps ↔ ∃ ps₁ ps₂,
      env.plan a aliases₁ = .ok ps₁ ∧ env.plan b aliases₂ = .ok ps₂ ∧ ps₁ ++ ps₂ = ps := by
  obtain ⟨haliases, hlength⟩ := h.aliasList_eq
  unfold plan
  rw [Definition.parse_append ha hb, haliases]
  cases hds : Definition.parse env.database env.membership a with
  | error e => simp
  | ok ds =>
    cases Definition.parse env.database env.membership b with
    | error e => simp
    | ok ds' =>
      -- The definitions of the first text are as many as its clauses, and so are its aliases.
      rw [Definition.length_of_parse hds] at hlength
      simp only [ok_bind]
      rw [planAll_append hlength]
      simp only [bind_eq_ok_iff, Except.ok.injEq, exists_and_left]

/-! ### Answers -/

/-- **The series of an answer are answered one by one**: plans in two lists have the answers of the
two lists, and what the points in time are does not depend on the plans. -/
theorem answer_append_eq_ok_iff {r : QueryResult} :
    env.answer (ps₁ ++ ps₂) window = .ok r ↔ ∃ r₁ r₂,
      env.answer ps₁ window = .ok r₁ ∧ env.answer ps₂ window = .ok r₂ ∧ r.Joins r₁ r₂ := by
  simp only [answer_eq_ok_iff, List.mapM_append, bind_eq_ok_iff, pure_eq_ok, Except.ok.injEq]
  -- Either way the slots are split where the plans are, and the times are of the window alone.
  refine ⟨?_, ?_⟩
  · rintro ⟨hwindow, _, texts, ⟨slots₁, hslots₁, slots₂, hslots₂, rfl⟩, htexts, rfl⟩
    refine ⟨_, _, ⟨hwindow, slots₁, texts, hslots₁, htexts, rfl⟩,
      ⟨hwindow, slots₂, texts, hslots₂, htexts, rfl⟩, rfl, rfl, ?_⟩
    exact List.map_append
  · rintro ⟨_, _, ⟨hwindow, slots₁, texts, hslots₁, htexts, rfl⟩,
      ⟨-, slots₂, _, hslots₂, -, rfl⟩, hjoins⟩
    refine ⟨hwindow, _, texts, ⟨slots₁, hslots₁, slots₂, hslots₂, rfl⟩, htexts, ?_⟩
    obtain ⟨dateTimes, series⟩ := r
    obtain ⟨hleft, -, hseries⟩ := hjoins
    rw [List.map_append]
    exact congrArg₂ QueryResult.mk hleft.symm hseries.symm

theorem dateTimes_eq_of_answer {r₁ r₂ : QueryResult} (h₁ : env.answer ps₁ window = .ok r₁)
    (h₂ : env.answer ps₂ window = .ok r₂) : r₁.dateTimes = r₂.dateTimes := by
  obtain ⟨-, slots₁, texts, -, htexts, rfl⟩ := answer_eq_ok_iff.mp h₁
  obtain ⟨-, slots₂, texts', -, htexts', rfl⟩ := answer_eq_ok_iff.mp h₂
  exact Except.ok.inj (htexts.symm.trans htexts')

/-! ### Queries -/

theorem evaluate_append_eq_ok_iff {first last : String} {r : QueryResult}
    (ha : Definition.clauses a.toList ≠ []) (hb : Definition.clauses b.toList ≠ [])
    (h : JoinedAliases a aliases₁ aliases₂ aliases) :
    env.evaluate (a ++ "_" ++ b) first last aliases = .ok r ↔ ∃ r₁ r₂,
      env.evaluate a first last aliases₁ = .ok r₁ ∧ env.evaluate b first last aliases₂ = .ok r₂ ∧
        r.Joins r₁ r₂ := by
  simp only [evaluate_eq_ok_iff, plan_append_eq_ok_iff ha hb h]
  refine ⟨?_, ?_⟩
  · rintro ⟨_, window, ⟨ps₁, ps₂, hps₁, hps₂, rfl⟩, hwindow, hanswer⟩
    obtain ⟨r₁, r₂, h₁, h₂, hjoins⟩ := answer_append_eq_ok_iff.mp hanswer
    exact ⟨r₁, r₂, ⟨ps₁, window, hps₁, hwindow, h₁⟩, ⟨ps₂, window, hps₂, hwindow, h₂⟩, hjoins⟩
  · rintro ⟨r₁, r₂, ⟨ps₁, window, hps₁, hwindow, h₁⟩, ⟨ps₂, window', hps₂, hwindow', h₂⟩, hjoins⟩
    -- The window does not depend on the text, so both answers are over the same one.
    obtain rfl := Except.ok.inj (hwindow.symm.trans hwindow')
    exact ⟨_, window, ⟨ps₁, ps₂, hps₁, hps₂, rfl⟩, hwindow,
      answer_append_eq_ok_iff.mpr ⟨r₁, r₂, h₁, h₂, hjoins⟩⟩

/-- **Queries compose.** Over every window, the query for two joined texts that each have a clause
succeeds exactly when the queries for the two texts do. Its answer then has the points in time of
theirs, and the series of the first followed by those of the second. -/
theorem evaluate_append (env : Environment) (a b first last : String)
    (aliases₁ aliases₂ aliases : Option String) (ha : Definition.clauses a.toList ≠ [])
    (hb : Definition.clauses b.toList ≠ []) (h : JoinedAliases a aliases₁ aliases₂ aliases) :
    ((∃ r, env.evaluate (a ++ "_" ++ b) first last aliases = .ok r) ↔
      (∃ r₁, env.evaluate a first last aliases₁ = .ok r₁) ∧
        ∃ r₂, env.evaluate b first last aliases₂ = .ok r₂) ∧
    ∀ r r₁ r₂, env.evaluate (a ++ "_" ++ b) first last aliases = .ok r →
      env.evaluate a first last aliases₁ = .ok r₁ → env.evaluate b first last aliases₂ = .ok r₂ →
        r.Joins r₁ r₂ := by
  refine ⟨⟨?_, ?_⟩, ?_⟩
  · rintro ⟨r, hr⟩
    obtain ⟨r₁, r₂, h₁, h₂, -⟩ := (evaluate_append_eq_ok_iff ha hb h).mp hr
    exact ⟨⟨r₁, h₁⟩, r₂, h₂⟩
  · rintro ⟨⟨r₁, h₁⟩, r₂, h₂⟩
    -- Both queries are about the same window, so their answers can be joined.
    have hdates : r₁.dateTimes = r₂.dateTimes := by
      obtain ⟨ps₁, window, -, hwindow, hanswer₁⟩ := evaluate_eq_ok_iff.mp h₁
      obtain ⟨ps₂, window', -, hwindow', hanswer₂⟩ := evaluate_eq_ok_iff.mp h₂
      obtain rfl := Except.ok.inj (hwindow.symm.trans hwindow')
      exact dateTimes_eq_of_answer hanswer₁ hanswer₂
    refine ⟨⟨r₁.dateTimes, r₁.series ++ r₂.series⟩, ?_⟩
    exact (evaluate_append_eq_ok_iff ha hb h).mpr ⟨r₁, r₂, h₁, h₂, rfl, hdates, rfl⟩
  · intro r r₁ r₂ hr h₁ h₂
    obtain ⟨r₁', r₂', h₁', h₂', hjoins⟩ := (evaluate_append_eq_ok_iff ha hb h).mp hr
    obtain rfl := Except.ok.inj (h₁.symm.trans h₁')
    obtain rfl := Except.ok.inj (h₂.symm.trans h₂')
    exact hjoins

/-- Two clauses for the same counter, the second behind a blank one and with an alias of its own. -/
theorem evaluate_append_sample :
    ∃ r r₁ r₂, (sample [sampleRecord]).evaluate ("ABCD-EFGH.1~Interval.A~hits" ++ "_" ++
        " _SUM~ABCD-EFGH.2~Interval.A~hits") "1999-12-31" "1999-12-31"
        (some ("" ++ "_" ++ "others")) = .ok r ∧
      (sample [sampleRecord]).evaluate "ABCD-EFGH.1~Interval.A~hits" "1999-12-31" "1999-12-31"
        (some "") = .ok r₁ ∧
      (sample [sampleRecord]).evaluate " _SUM~ABCD-EFGH.2~Interval.A~hits" "1999-12-31"
        "1999-12-31" (some "others") = .ok r₂ ∧
      r.Joins r₁ r₂ := by
  have hfirst : ((sample [sampleRecord]).evaluate "ABCD-EFGH.1~Interval.A~hits" "1999-12-31"
      "1999-12-31" (some "")).isOk = true := by decide +kernel
  have hsecond : ((sample [sampleRecord]).evaluate " _SUM~ABCD-EFGH.2~Interval.A~hits"
      "1999-12-31" "1999-12-31" (some "others")).isOk = true := by decide +kernel
  obtain ⟨r₁, h₁⟩ := isOk_iff.mp hfirst
  obtain ⟨r₂, h₂⟩ := isOk_iff.mp hsecond
  obtain ⟨hiff, hjoins⟩ := evaluate_append (sample [sampleRecord]) "ABCD-EFGH.1~Interval.A~hits"
    " _SUM~ABCD-EFGH.2~Interval.A~hits" "1999-12-31" "1999-12-31" (some "") (some "others") _
    (by decide +kernel) (by decide +kernel) (.some (by decide +kernel))
  -- That both halves succeed is evaluated, and that the joined text does follows.
  obtain ⟨r, hr⟩ := hiff.mpr ⟨⟨r₁, h₁⟩, r₂, h₂⟩
  exact ⟨r, r₁, r₂, hr, h₁, h₂, hjoins r r₁ r₂ hr h₁ h₂⟩

end Environment

end MetricSeries
