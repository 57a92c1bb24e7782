import MetricSeries.Proofs.Definition.Rewriting
import MetricSeries.Proofs.Query.Clauses

/-!
# The systems of a series are a set

The values of a series do not depend on how its systems are named: when the tokens of a clause are
reordered or repeated, or when the token of a group makes way for those of its members, the query
is answered with the same points (`Environment.evaluate_rewrites`).

The order of the systems is followed from the definitions through the plans
(`Environment.planAll_eq_ok_of_reordered`) and the slots (`Environment.slotOf_eq_ok_of_reordered`)
to the answer. It is lost where the rows are fetched: a provider asks of a row whether its system
is a wanted one, and returns the rows in its own order. So the aggregators are fed the same rows one
by one, and it does not matter that some of them, those of floating-point sums for instance, care
about the order of their rows.
-/

namespace MetricSeries

open Fallible Time

/-- **Two plans for the same systems.** They may differ in their names as well, which come from the
definitions where there is no alias. -/
structure SeriesPlan.Reordered (p p' : SeriesPlan) : Prop where
  definition : p.definition.Reordered p'.definition
  series : p'.series = p.series
  columns : p'.columns = p.columns

/-- **The same series up to the order of its systems** and up to its name. The points are the
same. -/
structure SeriesResult.Reordered (s s' : SeriesResult) : Prop where
  category : s'.category = s.category
  field : s'.field = s.field
  method : s'.method = s.method
  systems : s'.systems.Perm s.systems
  points : s'.points = s.points

namespace Environment

variable {env : Environment} {window : QueryWindow} {p p' : SeriesPlan}
  {ps ps' : List SeriesPlan} {ds ds' : List Definition} {as : List (List Char)}
  {text text' first last : String} {aliases : Option String} {r r' : QueryResult}

/-! ### Plans -/

theorem planSeries_eq_ok_of_reordered {alias? : Option (List Char)} {d d' : Definition}
    (h : d.Reordered d') (hp : env.planSeries alias? d = .ok p) :
    ∃ p', env.planSeries alias? d' = .ok p' ∧ p.Reordered p' := by
  -- What the registry resolves are the three names, which are those of the other definition.
  have hresolve : env.sources.registry.resolve env.database d' =
      env.sources.registry.resolve env.database d := by
    unfold Registry.resolve
    rw [h.method, h.category, h.field]
  obtain ⟨series, hseries, hp⟩ := bind_eq_ok_iff.mp hp
  obtain rfl := Except.ok.inj hp
  exact ⟨_, bind_eq_ok_iff.mpr ⟨series, hresolve.trans hseries, rfl⟩, h, rfl, rfl⟩

theorem planAll_eq_ok_of_reordered (h : List.Forall₂ Definition.Reordered ds ds')
    (hps : env.planAll as ds = .ok ps) :
    ∃ ps', env.planAll as ds' = .ok ps' ∧ List.Forall₂ SeriesPlan.Reordered ps ps' := by
  induction h generalizing as ps with
  | nil =>
    rw [planAll_nil] at hps ⊢
    obtain rfl := Except.ok.inj hps
    exact ⟨[], rfl, .nil⟩
  | cons hd h ih =>
    rw [planAll_cons] at hps
    obtain ⟨p, hp, hps⟩ := bind_eq_ok_iff.mp hps
    obtain ⟨ps, hrest, hps⟩ := bind_eq_ok_iff.mp hps
    obtain rfl := Except.ok.inj hps
    -- Both definitions stand at the same place and take the same alias.
    obtain ⟨p', hp', hreordered⟩ := planSeries_eq_ok_of_reordered hd hp
    obtain ⟨ps', hrest', hreorderedRest⟩ := ih hrest
    refine ⟨p' :: ps', ?_, .cons hreordered hreorderedRest⟩
    rw [planAll_cons, hp', ok_bind, hrest', ok_bind]

/-- A plan goes by the alias at its place, or by the text of its definition. -/
theorem name_of_planAll (h : env.planAll as ds = .ok ps) (i : Nat) :
    ps[i]?.map SeriesPlan.name = ds[i]?.map (seriesName as[i]?) := by
  -- By induction on the definitions, one alias being taken off with each of them.
  induction ds generalizing as ps i with
  | nil =>
    rw [planAll_nil] at h
    obtain rfl := Except.ok.inj h
    rfl
  | cons d ds ih =>
    rw [planAll_cons] at h
    obtain ⟨p, hp, h⟩ := bind_eq_ok_iff.mp h
    obtain ⟨ps, hps, h⟩ := bind_eq_ok_iff.mp h
    obtain rfl := Except.ok.inj h
    cases i with
    | zero =>
      obtain ⟨series, -, hp⟩ := bind_eq_ok_iff.mp hp
      obtain rfl := Except.ok.inj hp
      simp [List.head?_eq_getElem?]
    | succ i =>
      have hrest := ih hps i
      rw [List.getElem?_tail] at hrest
      simpa using hrest

/-- An alias that is not blank is the name whatever the definition. -/
theorem seriesName_of_ne_nil {a : List Char} (ha : a ≠ []) (d : Definition) :
    seriesName (some a) d = String.ofList a := by
  cases a with
  | nil => exact absurd rfl ha
  | cons c cs => rfl

/-! ### Slots and answers -/

theorem fetch_eq_of_reordered (h : p.Reordered p') (provider : Provider) :
    provider.fetch (env.request window p') = provider.fetch (env.request window p) := by
  have hrequest : env.request window p' =
      { env.request window p with systems := p'.definition.systems } := by
    unfold request
    rw [h.series]
  unfold Provider.fetch
  rw [hrequest, FetchRequest.rows_congr_systems fun s => h.definition.systems.mem_iff]

/-- **The slots of the two plans gather the same rows**, and so they have the same points. -/
theorem slotOf_eq_ok_of_reordered {s : SeriesSlot} (h : p.Reordered p')
    (hs : env.slotOf window p = .ok s) :
    ∃ s', env.slotOf window p' = .ok s' ∧ ∀ b precision,
      (s.render b precision).Reordered (s'.render b precision) := by
  obtain ⟨provider, rows, hprovider, hrows, heq, hgathers⟩ := of_slotOf hs
  have hprovider' : env.sources.providerFor p'.series.category.template = .ok provider := by
    rw [h.series]
    exact hprovider
  have hrows' : provider.fetch (env.request window p') = .ok rows := by
    rw [fetch_eq_of_reordered h]
    exact hrows
  -- Whether a slot can be filled depends on the rows and on the columns of the aggregation.
  obtain ⟨s', hs'⟩ : ∃ s', env.slotOf window p' = .ok s' := by
    obtain ⟨_, hfetched, hcolumns⟩ := (exists_slotOf_iff hprovider).mp ⟨s, hs⟩
    obtain rfl := Except.ok.inj (hrows.symm.trans hfetched)
    rw [← h.series] at hcolumns
    exact (exists_slotOf_iff hprovider').mpr ⟨rows, hrows', hcolumns⟩
  obtain ⟨_, rows', hprovider'', hrows'', heq', hgathers'⟩ := of_slotOf hs'
  obtain rfl := Except.ok.inj (hprovider'.symm.trans hprovider'')
  obtain rfl := Except.ok.inj (hrows'.symm.trans hrows'')
  have hfield : s'.field = s.field := by
    rw [heq, heq']
    exact h.series
  refine ⟨s', hs', fun b precision => ?_⟩
  constructor
  case category => exact congrArg (·.category.name) hfield
  case field => exact congrArg (·.field.name) hfield
  case method => exact congrArg (·.method) hfield
  case systems =>
    show (s'.systems.map SystemId.text).Perm (s.systems.map SystemId.text)
    rw [heq, heq']
    exact h.definition.systems.map SystemId.text
  case points =>
    show s'.points b precision = s.points b precision
    unfold SeriesSlot.points
    refine List.map_congr_left fun i _ => ?_
    rw [hgathers.valueAt_eq hgathers' hfield]

theorem answer_eq_ok_of_reordered (h : List.Forall₂ SeriesPlan.Reordered ps ps')
    (hr : env.answer ps window = .ok r) :
    ∃ r', env.answer ps' window = .ok r' ∧ r'.dateTimes = r.dateTimes ∧
      List.Forall₂ SeriesResult.Reordered r.series r'.series := by
  obtain ⟨hwindow, slots, texts, hslots, htexts, rfl⟩ := answer_eq_ok_iff.mp hr
  -- The slots of the reordered plans hold the same values, plan by plan.
  obtain ⟨slots', hslots', hreordered⟩ := mapM_eq_ok_of_forall₂
    (fun p p' s (hp : p.Reordered p') (hs : env.slotOf window p = .ok s) =>
      slotOf_eq_ok_of_reordered hp hs) h hslots
  refine ⟨_, answer_eq_ok_iff.mpr ⟨hwindow, slots', texts, hslots', htexts, rfl⟩, rfl, ?_⟩
  refine List.forall₂_map_left_iff.mpr (List.forall₂_map_right_iff.mpr ?_)
  exact hreordered.imp fun s s' hs => hs _ _

theorem names_of_answer (h : env.answer ps window = .ok r) :
    r.series.map SeriesResult.name = ps.map SeriesPlan.name := by
  have hnames : List.Forall₂ (fun p s => p.name = s.name) ps r.series := by
    refine (depicts_of_answer h).2.imp fun p s hs => ?_
    obtain ⟨provider, -, hdepicts⟩ := hs
    exact hdepicts.name.symm
  have hequal : List.Forall₂ Eq (ps.map SeriesPlan.name) (r.series.map SeriesResult.name) :=
    List.forall₂_map_left_iff.mpr (List.forall₂_map_right_iff.mpr hnames)
  rw [List.forall₂_eq_eq_eq] at hequal
  exact hequal.symm

/-! ### Queries -/

/-- **Only the set of the systems counts.** A query that is answered is still answered after the
tokens of its clauses have been rewritten. The answer has the same points in time and the same
series with the same points; the series list their systems in another order at most, and a series
with an alias keeps its name. -/
theorem evaluate_rewrites (env : Environment) (text text' first last : String)
    (aliases : Option String) (r : QueryResult)
    (h : Definition.TextRewrites env.membership text text')
    (hr : env.evaluate text first last aliases = .ok r) :
    ∃ r', env.evaluate text' first last aliases = .ok r' ∧ r'.dateTimes = r.dateTimes ∧
      List.Forall₂ SeriesResult.Reordered r.series r'.series ∧
      ∀ (i : Nat) (a : List Char), (aliasList aliases)[i]? = some a → a ≠ [] →
        r'.series[i]?.map SeriesResult.name = r.series[i]?.map SeriesResult.name := by
  obtain ⟨ps, window, hplan, hwindow, hanswer⟩ := evaluate_eq_ok_iff.mp hr
  obtain ⟨ds, hds, hps⟩ := bind_eq_ok_iff.mp hplan
  obtain ⟨ds', hds', hdefinitions⟩ := h.parse_eq_ok hds
  obtain ⟨ps', hps', hplans⟩ := planAll_eq_ok_of_reordered hdefinitions hps
  obtain ⟨r', hanswer', hdates, hseries⟩ := answer_eq_ok_of_reordered hplans hanswer
  refine ⟨r', evaluate_eq_ok_iff.mpr ⟨ps', window, ?_, hwindow, hanswer'⟩, hdates, hseries, ?_⟩
  · exact bind_eq_ok_iff.mpr ⟨ds', hds', hps'⟩
  · intro i a ha hne
    -- The names of both answers at the place of the alias are the alias.
    rw [← List.getElem?_map, ← List.getElem?_map, names_of_answer hanswer, names_of_answer hanswer',
      List.getElem?_map, List.getElem?_map, name_of_planAll hps, name_of_planAll hps', ha]
    have hname : seriesName (some a) = fun _ => String.ofList a :=
      funext (seriesName_of_ne_nil hne)
    rw [hname, ← List.getElem?_map, ← List.getElem?_map, List.map_const', List.map_const',
      hdefinitions.length_eq]

/-- A system and a group of two more, and then the three systems in another order and one of them
twice. The text of the second query names the same systems, so it has the same points. -/
theorem evaluate_rewrites_sample :
    ∃ r r', { sample [sampleRecord] with membership := Definition.sampleMembership }.evaluate
        "SUM~ABCD-EFGH.1~ABCD-EFGH.GROUP.7~Interval.A~hits" "1999-12-31" "1999-12-31"
        (some "load") = .ok r ∧
      { sample [sampleRecord] with membership := Definition.sampleMembership }.evaluate
        "SUM~ABCD-EFGH.3~ABCD-EFGH.1~ABCD-EFGH.12~ABCD-EFGH.1~Interval.A~hits" "1999-12-31"
        "1999-12-31" (some "load") = .ok r' ∧
      r'.dateTimes = r.dateTimes ∧ List.Forall₂ SeriesResult.Reordered r.series r'.series ∧
      r'.series[0]?.map SeriesResult.name = r.series[0]?.map SeriesResult.name := by
  have hok : ({ sample [sampleRecord] with membership := Definition.sampleMembership }.evaluate
      "SUM~ABCD-EFGH.1~ABCD-EFGH.GROUP.7~Interval.A~hits" "1999-12-31" "1999-12-31"
      (some "load")).isOk = true := by decide +kernel
  obtain ⟨r, hr⟩ := isOk_iff.mp hok
  -- The group makes way for its members, the first system is said again, and all change places.
  have hgroup : Ident.parseChars "ABCD-EFGH.GROUP.7".toList = .ok (.group ⟨"ABCD-EFGH", 7⟩) := by
    decide +kernel
  have hmembers : Definition.Rewrites Definition.sampleMembership
      (["ABCD-EFGH.1".toList] ++ "ABCD-EFGH.GROUP.7".toList :: [])
      (["ABCD-EFGH.1".toList] ++
        (Definition.sampleMembership ⟨"ABCD-EFGH", 7⟩).map SystemId.chars ++ []) :=
    .members hgroup (by decide) (by decide)
  have htokens : Definition.Rewrites Definition.sampleMembership
      ["ABCD-EFGH.1".toList, "ABCD-EFGH.GROUP.7".toList]
      ["ABCD-EFGH.3".toList, "ABCD-EFGH.1".toList, "ABCD-EFGH.12".toList, "ABCD-EFGH.1".toList] :=
    hmembers.trans (.trans (.again List.mem_cons_self) (.reorder (by decide +kernel)))
  have hrewrites : Definition.TextRewrites Definition.sampleMembership
      "SUM~ABCD-EFGH.1~ABCD-EFGH.GROUP.7~Interval.A~hits"
      "SUM~ABCD-EFGH.3~ABCD-EFGH.1~ABCD-EFGH.12~ABCD-EFGH.1~Interval.A~hits" := by
    have hshape : Definition.Shape "SUM~ABCD-EFGH.1~ABCD-EFGH.GROUP.7~Interval.A~hits".toList
        (some .sum) ["ABCD-EFGH.1".toList, "ABCD-EFGH.GROUP.7".toList] "Interval.A".toList
        "hits".toList := by
      have hparts : Text.parts tokenSeparator
          "SUM~ABCD-EFGH.1~ABCD-EFGH.GROUP.7~Interval.A~hits".toList =
          Method.sum.name.toList :: ["ABCD-EFGH.1".toList, "ABCD-EFGH.GROUP.7".toList,
            "Interval.A".toList, "hits".toList] := by decide +kernel
      exact ⟨⟨_, Text.cut_iff.mpr hparts, .override⟩, by decide, by decide, by decide⟩
    exact .cons (.tokens hshape htokens (by decide +kernel)) .nil
  obtain ⟨r', hr', hdates, hseries, hnames⟩ := evaluate_rewrites
    { sample [sampleRecord] with membership := Definition.sampleMembership } _ _ "1999-12-31"
    "1999-12-31" (some "load") r hrewrites hr
  exact ⟨r, r', hr, hr', hdates, hseries, hnames 0 "load".toList (by decide +kernel) (by decide)⟩

end Environment

end MetricSeries
