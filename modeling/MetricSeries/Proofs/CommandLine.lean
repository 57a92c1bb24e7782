import MetricSeries.CommandLine
import MetricSeries.Proofs.Definition.Inference
import MetricSeries.Proofs.Registry.Catalogs
import MetricSeries.Proofs.Registry.Selection

/-!
# The database of a run

A run without `--database` takes the database that the definition names. That is no loss. Arguments
are read from left to right, so an option may stand between any two of them that are not a flag
and its value, and to put `--database` there changes nothing but the database
(`Reads.read_append`, `Reads.withDatabase`). A plan exists in one database at most, since a text
that is read in a database names this one (`Plans.infers`). So where a plan exists, it makes no
difference whether its database is named or left out, and any other database fails
(`only_inferred_database_plans`).
-/

namespace MetricSeries.CommandLine

open Time

variable {w : World} {o o' : Options} {arguments before after : List String}
  {flag value definition id : String} {window : Option (String × String)}
  {registry : Registry} {config : Config} {plans : List SeriesPlan}

/-! ### Reading arguments -/

/-- An argument that stands for itself: it takes no value, and it does not end the reading. -/
def IsPositional (argument : String) : Prop :=
  takesValue argument = false ∧ ¬(argument = "-h" || argument = "--help") ∧
    ¬argument.startsWith "--"

/-- **Arguments that are followed**: `Reads o arguments o'` says that the arguments turn the options
`o` into `o'`. -/
inductive Reads : Options → List String → Options → Prop where
  | nil {o : Options} : Reads o [] o
  | option {o o₁ o' : Options} {flag value : String} {rest : List String}
      (set : o.set? flag value = some o₁) (reads : Reads o₁ rest o') :
      Reads o (flag :: value :: rest) o'
  | positional {o o' : Options} {argument : String} {rest : List String}
      (positional : IsPositional argument)
      (reads : Reads { o with positional := o.positional ++ [argument] } rest o') :
      Reads o (argument :: rest) o'

/-- Whether a flag takes a value does not depend on what has been read. -/
theorem Options.set?_eq_none_iff : o.set? flag value = none ↔ takesValue flag = false := by
  unfold takesValue Options.set?
  split <;> simp

theorem IsPositional.read_cons (h : IsPositional flag) (rest : List String) :
    o.read (flag :: rest) = Options.read { o with positional := o.positional ++ [flag] } rest := by
  obtain ⟨hvalue, hhelp, hdashes⟩ := h
  cases rest with
  | nil =>
    have hvalue : ¬takesValue flag = true := Bool.eq_false_iff.mp hvalue
    exact (if_neg hvalue).trans ((if_neg hhelp).trans (if_neg hdashes))
  | cons value rest =>
    rw [Options.read, Options.set?_eq_none_iff.mpr hvalue]
    exact (if_neg hhelp).trans (if_neg hdashes)

/-- What is read first does not look at what comes behind it. -/
theorem Reads.read_append (h : Reads o before o') (after : List String) :
    o.read (before ++ after) = o'.read after := by
  induction h with
  | nil => rfl
  | option hset _ ih =>
    rw [List.cons_append, List.cons_append, Options.read, hset]
    exact ih
  | positional hpositional _ ih =>
    rw [List.cons_append, hpositional.read_cons]
    exact ih

theorem read_eq_ok_iff : o.read arguments = .ok o' ↔ Reads o arguments o' := by
  refine ⟨fun h => ?_, fun h => ?_⟩
  · -- Along the recursion of the reading: each case that succeeds is a rule of the grammar, and the
    -- cases that refuse an option do not succeed.
    fun_induction Options.read o arguments with
    | case1 o => cases h; exact .nil
    | case5 o flag hvalue hhelp hdashes =>
      cases h
      exact .positional ⟨Bool.eq_false_iff.mpr hvalue, hhelp, hdashes⟩ .nil
    | case6 o flag value rest o₁ hset ih => exact .option hset (ih h)
    | case9 o flag value rest hset hhelp hdashes ih =>
      exact .positional ⟨Options.set?_eq_none_iff.mp hset, hhelp, hdashes⟩ (ih h)
    | case2 => cases h
    | case3 => cases h
    | case4 => cases h
    | case7 => cases h
    | case8 => cases h
  · calc o.read arguments = o.read (arguments ++ []) := by rw [List.append_nil]
      _ = o'.read [] := h.read_append []
      _ = .ok o' := rfl

/-! ### Naming the database as well -/

/-- A flag that leaves the database open is another one than `--database`. -/
theorem Options.set?_withDatabase (h : o.set? flag value = some o') (hopen : o'.database = none)
    (id : String) :
    o.database = none ∧
      ({ o with database := some id } : Options).set? flag value =
        some { o' with database := some id } := by
  unfold Options.set? at h ⊢
  split at h <;> cases h
  -- The first flag is the one that names a database, and no other looks at it.
  · cases hopen
  all_goals exact ⟨hopen, rfl⟩

/-- **Arguments that leave the database open** are read in the same way where it is known. -/
theorem Reads.withDatabase (h : Reads o arguments o') (hopen : o'.database = none) (id : String) :
    o.database = none ∧
      Reads { o with database := some id } arguments { o' with database := some id } := by
  -- Inward from the last argument: an open database at the end was open before every option, so
  -- setting it early meets no option that would set it again.
  induction h with
  | nil => exact ⟨hopen, .nil⟩
  | option hset _ ih =>
    obtain ⟨hdatabase, hreads⟩ := ih hopen
    obtain ⟨hdatabase, hset⟩ := Options.set?_withDatabase hset hdatabase id
    exact ⟨hdatabase, .option hset hreads⟩
  | positional hpositional _ ih =>
    obtain ⟨hdatabase, hreads⟩ := ih hopen
    exact ⟨hdatabase, .positional hpositional hreads⟩

theorem read_insert_database {o₁ : Options} (hbefore : Options.read {} before = .ok o₁)
    (hread : Options.read {} (before ++ after) = .ok o) (hopen : o.database = none)
    (id : String) :
    Options.read {} (before ++ "--database" :: id :: after) =
      .ok { o with database := some id } := by
  -- The reading is cut where the option is put in: `o₁` is what the arguments before it leave.
  have hfirst : Reads {} before o₁ := read_eq_ok_iff.mp hbefore
  have hrest : Reads o₁ after o := read_eq_ok_iff.mp ((hfirst.read_append after).symm.trans hread)
  calc Options.read {} (before ++ "--database" :: id :: after)
      = o₁.read ("--database" :: id :: after) := hfirst.read_append _
    _ = Options.read { o₁ with database := some id } after := rfl
    _ = .ok { o with database := some id } := read_eq_ok_iff.mpr (hrest.withDatabase hopen id).2

/-! ### Plans of a run -/

/-- A catalog that can be read and is accepted is part of the registry. -/
theorem World.registry_of_load {path text : String} {count : Nat}
    (hfile : w.file path = .ok text) (hload : Registry.builtin.load text = (registry, .ok count)) :
    w.registry (some path) = .ok registry := by
  have hread : w.read .catalog path = .ok text := by
    unfold World.read
    rw [hfile]
  unfold World.registry
  dsimp only
  rw [hread, Fallible.ok_bind, hload]
  rfl

/-- What a run answers against, once its files are read and its database is known. -/
def environment (w : World) (o : Options) (registry : Registry) (config : Config) (id : String) :
    Environment :=
  { sources := .ofRegistry registry, membership := .empty, config, zone := w.clock.zone,
    database := o.databaseWith id config w.clock.now }

@[simp]
theorem environment_database_id :
    (environment w o registry config id).database.id = id := by
  unfold environment Options.databaseWith
  dsimp only
  split <;> rfl

/-- **The options have a plan in a database**: the files that they name can be read, and every
clause of the definition resolves. -/
inductive Plans (w : World) (o : Options) (id : String) : Prop where
  | intro {registry : Registry} {config : Config} {definition : String}
      {window : Option (String × String)} {plans : List SeriesPlan}
      (registry_eq : w.registry o.templates = .ok registry)
      (config_eq : w.config o.config = .ok config)
      (positional_eq : positional? o.positional = some (definition, window))
      (plan_eq : (environment w o registry config id).plan definition o.aliases = .ok plans) :
      Plans w o id

/-- A definition that has a plan names the database of the plan. -/
theorem inferDatabase_of_plan {env : Environment} {aliases : Option String}
    (h : env.plan definition aliases = .ok plans) :
    Definition.inferDatabase definition = some env.database.id := by
  obtain ⟨ds, hparse, -⟩ := Fallible.bind_eq_ok_iff.mp h
  exact Definition.inferDatabase_of_parse hparse

/-- The database of a plan is the one that the definition names. -/
theorem Plans.infers (h : Plans w o id) (hpositional : positional? o.positional =
    some (definition, window)) : Definition.inferDatabase definition = some id := by
  obtain @⟨registry, config, definition', window', plans, -, -, hpositional', hplan⟩ := h
  obtain ⟨rfl, -⟩ := Prod.mk.inj (Option.some.inj (hpositional.symm.trans hpositional'))
  rw [inferDatabase_of_plan hplan, environment_database_id]

/-- A definition that has no plan is the fault of the request. -/
theorem isRequest_of_plan_eq_error {env : Environment} {aliases : Option String} {e : Error}
    (h : env.plan definition aliases = .error e) : e.kind.isRequest = true := by
  -- A plan fails in one of two stages: when the text is read, or when one of its series is
  -- resolved.
  have hseries : ∀ alias? d, env.planSeries alias? d = .error e → e.kind.isRequest = true := by
    intro alias? d hd
    unfold Environment.planSeries at hd
    rcases Fallible.bind_eq_error_iff.mp hd with hresolve | ⟨series, -, hd⟩
    · exact Registry.isRequest_of_resolve_eq_error hresolve
    · cases hd
  have hall : ∀ ds aliases, env.planAll aliases ds = .error e → e.kind.isRequest = true := by
    intro ds
    -- By induction on the definitions: the error is that of the first one that does not resolve.
    induction ds with
    | nil => exact fun aliases h => nomatch h
    | cons d ds ih =>
      intro aliases h
      unfold Environment.planAll at h
      rcases Fallible.bind_eq_error_iff.mp h with hd | ⟨p, -, h⟩
      · exact hseries _ d hd
      · rcases Fallible.bind_eq_error_iff.mp h with hrest | ⟨ps, -, h⟩
        · exact ih _ hrest
        · cases h
  unfold Environment.plan at h
  rcases Fallible.bind_eq_error_iff.mp h with hparse | ⟨ds, -, h⟩
  · exact Definition.isRequest_of_parse_eq_error hparse
  · exact hall ds _ h

/-! ### Runs -/

/-- The outcome of a run that got as far as an explanation. -/
def explained : Except Error Json → Outcome
  | .error e => .ofError e
  | .ok j => ⟨0, j.withSortedKeys.pretty ++ "\n", ""⟩

/-- A request at fault makes a run fail. -/
theorem Outcome.ofError_of_isRequest {e : Error} (h : e.kind.isRequest = true) :
    ofError e = failure e.message := by
  cases e with
  | aborted => cases h
  | _ => rfl

/-- A run whose files can be read explains the definition in the database that is named, or else
in the one that the definition names. -/
theorem run_eq_explained (hread : Options.read {} arguments = .ok o)
    (hregistry : w.registry o.templates = .ok registry)
    (hconfig : w.config o.config = .ok config)
    (hpositional : positional? o.positional = some (definition, window))
    (hid : (o.database <|> Definition.inferDatabase definition) = some id) :
    run w arguments =
      explained (explain (environment w o registry config id) definition window o.aliases) := by
  unfold run
  rw [hread]
  dsimp only
  rw [hpositional]
  dsimp only
  -- The environment that is built on the way is the one of the statement.
  unfold follow
  rw [hregistry, hconfig]
  dsimp only [bind, Except.bind, pure, Except.pure]
  rw [hid]
  rfl

theorem exitStatus_of_not_plan {env : Environment} {aliases : Option String}
    (h : ¬∃ plans, env.plan definition aliases = .ok plans) :
    (explained (explain env definition window aliases)).exitStatus = 1 := by
  obtain ⟨e, he⟩ := Fallible.exists_error_iff.mpr h
  unfold explain
  rw [he]
  exact congrArg Outcome.exitStatus (Outcome.ofError_of_isRequest (isRequest_of_plan_eq_error he))

/-- A plan without a window is explained. -/
theorem explained_of_plan {env : Environment} {aliases : Option String}
    (h : env.plan definition aliases = .ok plans) :
    explained (explain env definition none aliases) =
      ⟨0, (explanation env plans none).withSortedKeys.pretty ++ "\n", ""⟩ := by
  unfold explain
  rw [h]
  rfl

/-- **The inferred database is the only one that can work.** A text that is read in a database
names it. So where the options of a run leave the database open and have a plan in some database,
to name this database among them changes nothing, and in any other database there is no plan and
the run fails. Where no window is asked for, the run prints the plan. -/
theorem only_inferred_database_plans :
    (∀ (db : Database) (m : Membership) (text : String) (ds : List Definition),
      Definition.parse db m text = .ok ds → Definition.inferDatabase text = some db.id) ∧
    ∀ (w : World) (before after : List String) (o₁ o : Options) (id : String),
      Options.read {} before = .ok o₁ → Options.read {} (before ++ after) = .ok o →
      o.database = none → Plans w o id →
      run w (before ++ "--database" :: id :: after) = run w (before ++ after) ∧
      (∀ definition, positional? o.positional = some (definition, none) →
        ∃ registry config plans, w.registry o.templates = .ok registry ∧
          w.config o.config = .ok config ∧
          (environment w o registry config id).plan definition o.aliases = .ok plans ∧
          run w (before ++ after) =
            ⟨0, (explanation (environment w o registry config id) plans none).withSortedKeys.pretty
              ++ "\n", ""⟩) ∧
      ∀ other : String, other ≠ id →
        ¬Plans w o other ∧
        (run w (before ++ "--database" :: other :: after)).exitStatus = 1 := by
  refine ⟨fun db m text ds => Definition.inferDatabase_of_parse, ?_⟩
  intro w before after o₁ o id hbefore hread hopen hplans
  -- Whatever database is named, the other options stay as they are.
  have hnamed := read_insert_database hbefore hread hopen
  obtain @⟨registry, config, definition, window, plans, hregistry, hconfig, hpositional, hplan⟩ :=
    hplans
  have hinfers : Definition.inferDatabase definition = some id :=
    Plans.infers (.intro hregistry hconfig hpositional hplan) hpositional
  have hinferred : (o.database <|> Definition.inferDatabase definition) = some id := by
    rw [hopen, hinfers]
    rfl
  refine ⟨?_, fun definition' hpositional' => ?_, fun other hother => ?_⟩
  · rw [run_eq_explained (hnamed id) hregistry hconfig hpositional rfl,
      run_eq_explained hread hregistry hconfig hpositional hinferred]
    rfl
  · obtain ⟨rfl, rfl⟩ := Prod.mk.inj (Option.some.inj (hpositional.symm.trans hpositional'))
    refine ⟨registry, config, plans, hregistry, hconfig, hplan, ?_⟩
    rw [run_eq_explained hread hregistry hconfig hpositional hinferred, explained_of_plan hplan]
  · have hnone : ¬Plans w o other := fun h =>
      hother (Option.some.inj ((h.infers hpositional).symm.trans hinfers))
    refine ⟨hnone, ?_⟩
    rw [run_eq_explained (hnamed other) hregistry hconfig hpositional rfl]
    exact exitStatus_of_not_plan fun ⟨_, h⟩ => hnone (.intro hregistry hconfig hpositional h)

/-- A catalog whose names look like identifiers. -/
def sampleTemplates : List Template :=
  [⟨"WXYZ-WXYZ", [(Field.new "AAAA-BBBB.7" "c" .max).offer .max (.max "c" .integer)]⟩]

/-- A world whose only file is this catalog. -/
def sampleWorld : World where
  program := "series_explain"
  setting := fun _ => none
  file := fun _ => .ok (Catalog.write sampleTemplates)
  clock := ⟨.utc, 0⟩

def sampleDefinition : String := "_MAX~ABCD-EFGH.1~WXYZ-WXYZ.9~AAAA-BBBB.7"

def sampleOptions : Options :=
  { positional := [sampleDefinition], changesets := ["2"], templates := some "catalog.json" }

/-- The catalog is read and the definition has a plan. -/
theorem plans_sample : Plans sampleWorld sampleOptions "ABCD-EFGH" := by
  have hvalid : ∀ t ∈ sampleTemplates, t.Valid := fun t ht =>
    Template.validate_eq_ok_iff.mp (by revert t; decide +kernel)
  have hregistry : sampleWorld.registry (some "catalog.json") =
      .ok (Registry.builtin.putAll sampleTemplates) :=
    World.registry_of_load rfl (Registry.load_write hvalid)
  have hplan : ((environment sampleWorld sampleOptions (Registry.builtin.putAll sampleTemplates) {}
      "ABCD-EFGH").plan sampleDefinition none).isOk = true := by
    decide +kernel
  obtain ⟨plans, hplan⟩ := Fallible.isOk_iff.mp hplan
  exact .intro hregistry rfl rfl hplan

/-- The flag is put between the option for the catalog and the definition, in front of another
option. The template and the field have names that would do as databases. The run succeeds. -/
theorem only_inferred_database_plans_sample :
    ∃ o₁ o, Options.read {} ["--templates", "catalog.json"] = .ok o₁ ∧
      Options.read {} (["--templates", "catalog.json"] ++ [sampleDefinition, "--changeset", "2"]) =
        .ok o ∧
      o.database = none ∧ Plans sampleWorld o "ABCD-EFGH" ∧
      run sampleWorld (["--templates", "catalog.json"] ++
          "--database" :: "ABCD-EFGH" :: [sampleDefinition, "--changeset", "2"]) =
        run sampleWorld (["--templates", "catalog.json"] ++
          [sampleDefinition, "--changeset", "2"]) ∧
      (run sampleWorld (["--templates", "catalog.json"] ++
          [sampleDefinition, "--changeset", "2"])).exitStatus = 0 ∧
      ¬Plans sampleWorld o "WXYZ-WXYZ" := by
  have hbefore : Options.read {} ["--templates", "catalog.json"] =
      .ok { templates := some "catalog.json" } := rfl
  -- The definition is the one positional argument, between two options.
  have hread : Options.read {} (["--templates", "catalog.json"] ++
      [sampleDefinition, "--changeset", "2"]) = .ok sampleOptions := by
    refine read_eq_ok_iff.mpr (.option rfl (.positional ?_ (.option rfl .nil)))
    unfold IsPositional
    decide +kernel
  obtain ⟨-, hdatabase⟩ := only_inferred_database_plans
  obtain ⟨hsame, hprints, hother⟩ := hdatabase sampleWorld _ _ _ _ _ hbefore hread rfl plans_sample
  obtain ⟨registry, config, plans, -, -, -, hrun⟩ := hprints sampleDefinition rfl
  exact ⟨_, _, hbefore, hread, rfl, plans_sample, hsame, congrArg Outcome.exitStatus hrun,
    (hother "WXYZ-WXYZ" (by decide)).1⟩

end MetricSeries.CommandLine
