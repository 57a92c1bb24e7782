import MetricSeries.Proofs.Registry.Registration
import MetricSeries.Sources

/-!
# Registries over time

A registry is filled by calls, and then shared: templates and providers are added to it step by
step, and snapshots of it are kept. `History.Moves` says what a step does when it succeeds, with one
constructor for each kind of step; a step that fails does nothing (`step_cases`). From that we get,
for one step and then for a whole run:

* `Keeps` — names of templates stay, snapshots that were taken stay as they are, and the ones that
  are taken later have all the names (`keeps_run`);
* `Attached` — **the invariant of the providers**: they are attached to registered templates only
  (`Attached.run`);
* `registry_run` — the registry is what the templates of the successful steps make of it.

`shared_spec` puts these together. A catalog is not taken in as a whole: the templates in front of
the first one that is not valid stay.
-/

namespace MetricSeries

open Fallible

namespace Registry

variable {r : Registry}

theorem names_subset_run (r : Registry) (calls : List Call) : r.names ⊆ (r.run calls).names := by
  rw [run_eq]
  exact names_subset_putAll r _

/-- Registering valid templates by one call each puts them in. -/
theorem run_map_register {ts : List Template} (h : ∀ t ∈ ts, t.Valid) :
    r.run (ts.map .register) = r.putAll ts := by
  induction ts generalizing r with
  | nil => rfl
  | cons t ts ih =>
    obtain ⟨ht, hts⟩ := List.forall_mem_cons.mp h
    have hafter : r.after (.register t) = r.put t := by
      rw [Registry.after, register_of_valid ht]
    rw [List.map_cons, show r.run (.register t :: ts.map .register) =
      (r.after (.register t)).run (ts.map .register) from rfl, hafter]
    exact ih hts

/-- **A catalog that is refused midway** leaves the templates in front. -/
theorem load_of_error {text : String} {front rest : List Template} {t : Template} {e : Error}
    (hread : Catalog.read? text = some (front ++ t :: rest)) (h : ∀ u ∈ front, u.validate = .ok ())
    (he : t.validate = .error e) :
    r.load text = (r.run (front.map .register), .error e) := by
  have hvalid : ∀ u ∈ front, u.Valid := fun u hu => Template.validate_eq_ok_iff.mp (h u hu)
  rw [load_of_some hread, registerAll_of_error hvalid he, run_map_register hvalid]
  rfl

end Registry

namespace Sources

theorem registerProvider_of_mem {s : Sources} {p : Provider} (h : p.template ∈ s.registry.names) :
    s.registerProvider p = .ok { s with providers := s.providers.insert p.template p } := by
  obtain ⟨t, ht⟩ := Registry.mem_names_iff.mp h
  unfold registerProvider Registry.lookup
  rw [ht]
  rfl

theorem registerProvider_of_not_mem {s : Sources} {p : Provider}
    (h : p.template ∉ s.registry.names) :
    s.registerProvider p = .error (.templateNotFound p.template) := by
  unfold registerProvider Registry.lookup
  rw [SortedMap.get?_eq_none_iff.mpr h]
  rfl

/-- The templates that a step asks to register. -/
def Step.templates : Step → List Template
  | .register t => [t]
  | .registerProvider _ => []
  | .snapshot => []

namespace History

variable {h h' : History} {s : Step} {t : Template} {steps post : List Step}

/-! ### One step -/

/-- The history after a template was put into the registry. -/
def put (h : History) (t : Template) : History :=
  { h with sources := { h.sources with registry := h.sources.registry.put t } }

/-- The history after a provider was attached. -/
def attach (h : History) (p : Provider) : History :=
  { h with sources := { h.sources with
      providers := h.sources.providers.insert p.template p } }

/-- The history after a snapshot was taken. -/
def keep (h : History) : History := { h with snapshots := h.snapshots ++ [h.sources.registry] }

/-- **What a step does** when it succeeds. -/
inductive Moves (h : History) : Step → History → Prop where
  /-- A template is registered, which must be valid. -/
  | register {t : Template} (valid : t.Valid) : Moves h (.register t) (h.put t)
  /-- A provider is attached to its template, which must be registered. -/
  | registerProvider {p : Provider} (registered : p.template ∈ h.sources.registry.names) :
      Moves h (.registerProvider p) (h.attach p)
  /-- A snapshot is taken. -/
  | snapshot : Moves h .snapshot h.keep

/-- **A step succeeds or changes nothing.** -/
theorem step_cases (h : History) (s : Step) :
    (∃ h', h.Moves s h' ∧ h.step s = (h', .ok ())) ∨ ∃ e, h.step s = (h, .error e) := by
  -- Each kind of step has one guard, which decides between its move and an error; a snapshot has
  -- none.
  cases s with
  | register t =>
    by_cases ht : t.Valid
    · refine .inl ⟨_, .register ht, ?_⟩
      rw [step, Sources.register, Registry.register_of_valid ht]
      rfl
    · obtain ⟨e, he⟩ := Template.exists_error_of_not_valid ht
      refine .inr ⟨e, ?_⟩
      rw [step, Sources.register, Registry.register_of_error he]
      rfl
  | registerProvider p =>
    by_cases hp : p.template ∈ h.sources.registry.names
    · refine .inl ⟨_, .registerProvider hp, ?_⟩
      rw [step, registerProvider_of_mem hp]
      rfl
    · refine .inr ⟨.templateNotFound p.template, ?_⟩
      rw [step, registerProvider_of_not_mem hp]
  | snapshot => exact .inl ⟨_, .snapshot, rfl⟩

theorem step_of_error {e : Error} (he : (h.step s).2 = .error e) : (h.step s).1 = h := by
  obtain ⟨h', -, hstep⟩ | ⟨e', hstep⟩ := h.step_cases s
  · rw [hstep] at he
    cases he
  · rw [hstep]

theorem run_append : h.run (steps ++ post) = (h.run steps).run post := List.foldl_append

/-! ### What stays -/

/-- **A later history** has all names of templates, now and in the snapshots taken since, and has
kept the snapshots that were taken before. -/
structure Keeps (h later : History) : Prop where
  names : h.sources.registry.names ⊆ later.sources.registry.names
  snapshots : ∃ taken, later.snapshots = h.snapshots ++ taken ∧
    ∀ r ∈ taken, h.sources.registry.names ⊆ r.names

theorem Keeps.refl (h : History) : h.Keeps h :=
  ⟨List.Subset.refl _, [], (List.append_nil _).symm, fun _ hr => absurd hr List.not_mem_nil⟩

theorem Keeps.trans {later : History} (h₁ : h.Keeps h') (h₂ : h'.Keeps later) : h.Keeps later := by
  obtain ⟨hnames, taken, htaken, hold⟩ := h₁
  obtain ⟨hnames', taken', htaken', hold'⟩ := h₂
  refine ⟨List.Subset.trans hnames hnames', taken ++ taken', ?_, fun r hr => ?_⟩
  · rw [htaken', htaken, List.append_assoc]
  · rcases List.mem_append.mp hr with hr | hr
    · exact hold r hr
    · exact List.Subset.trans hnames (hold' r hr)

/-- Nothing is lost in a step that succeeds. -/
theorem Moves.keeps (hmoves : h.Moves s h') : h.Keeps h' := by
  -- Names are only ever added; the list of snapshots grows by the one a snapshot step takes.
  cases hmoves with
  | @register t _ =>
    refine ⟨Registry.names_subset_putAll _ [t], [], (List.append_nil _).symm, ?_⟩
    exact fun _ hr => absurd hr List.not_mem_nil
  | registerProvider _ =>
    exact ⟨List.Subset.refl _, [], (List.append_nil _).symm,
      fun _ hr => absurd hr List.not_mem_nil⟩
  | snapshot =>
    refine ⟨List.Subset.refl _, [h.sources.registry], rfl, fun r hr => ?_⟩
    obtain rfl := List.mem_singleton.mp hr
    exact List.Subset.refl _

theorem keeps_step (h : History) (s : Step) : h.Keeps (h.step s).1 := by
  obtain ⟨h', hmoves, hstep⟩ | ⟨e, hstep⟩ := h.step_cases s
  · rw [hstep]
    exact hmoves.keeps
  · rw [hstep]
    exact .refl h

/-- **Nothing is lost in a run.** -/
theorem keeps_run (h : History) (steps : List Step) : h.Keeps (h.run steps) := by
  induction steps generalizing h with
  | nil => exact .refl h
  | cons s steps ih => exact (h.keeps_step s).trans (ih (h.step s).1)

/-! ### Providers -/

/-- **Providers are attached** to registered templates only. -/
def Attached (h : History) : Prop := h.sources.providers.keys ⊆ h.sources.registry.names

theorem Moves.attached (hmoves : h.Moves s h') (ha : h.Attached) : h'.Attached := by
  cases hmoves with
  | @register t _ => exact List.Subset.trans ha (Registry.names_subset_putAll _ [t])
  | @registerProvider p hp =>
    intro name hname
    rcases SortedMap.mem_keys_insert.mp hname with rfl | hname
    · exact hp
    · exact ha hname
  | snapshot => exact ha

theorem Attached.run (ha : h.Attached) (steps : List Step) : (h.run steps).Attached := by
  induction steps generalizing h with
  | nil => exact ha
  | cons s steps ih =>
    refine ih (h := (h.step s).1) ?_
    -- A failing step leaves the sources as they are, so only the three moves need the invariant.
    obtain ⟨h', hmoves, hstep⟩ | ⟨e, hstep⟩ := h.step_cases s
    · rw [hstep]
      exact hmoves.attached ha
    · rw [hstep]
      exact ha

/-! ### Registrations -/

/-- The templates that a run registers: those of its steps that succeed. -/
def registered (h : History) : List Step → List Template
  | [] => []
  | s :: steps => (if (h.step s).2.isOk then s.templates else []) ++ (h.step s).1.registered steps

theorem Moves.registry_eq (hmoves : h.Moves s h') :
    h'.sources.registry = h.sources.registry.putAll s.templates := by
  cases hmoves with
  | register _ => rfl
  | registerProvider _ => rfl
  | snapshot => rfl

theorem Moves.valid (hmoves : h.Moves s h') (ht : t ∈ s.templates) : t.Valid := by
  cases hmoves with
  | register valid =>
    obtain rfl := List.mem_singleton.mp ht
    exact valid
  | registerProvider _ => exact absurd ht List.not_mem_nil
  | snapshot => exact absurd ht List.not_mem_nil

/-- **The registry after a run** has the templates that the run registers. -/
theorem registry_run (h : History) (steps : List Step) :
    (h.run steps).sources.registry = h.sources.registry.putAll (h.registered steps) := by
  -- By induction on the steps: a move registers its templates, and a failed step registers none.
  induction steps generalizing h with
  | nil => rfl
  | cons s steps ih =>
    rw [show h.run (s :: steps) = (h.step s).1.run steps from rfl, ih, registered,
      Registry.putAll_append]
    congr 1
    obtain ⟨h', hmoves, hstep⟩ | ⟨e, hstep⟩ := h.step_cases s
    · rw [hstep]
      exact hmoves.registry_eq
    · rw [hstep]
      rfl

theorem valid_of_mem_registered (ht : t ∈ h.registered steps) : t.Valid := by
  induction steps generalizing h with
  | nil => exact absurd ht List.not_mem_nil
  | cons s steps ih =>
    rw [registered] at ht
    rcases List.mem_append.mp ht with ht | ht
    · -- A failing step registers nothing, so the template comes from a move.
      obtain ⟨h', hmoves, hstep⟩ | ⟨e, hstep⟩ := h.step_cases s
      · rw [hstep] at ht
        exact hmoves.valid ht
      · rw [hstep] at ht
        exact absurd ht List.not_mem_nil
    · exact ih ht

/-- A snapshot stays at its place. -/
theorem getElem?_snapshots_run (h : History) (post : List Step) :
    (h.run (.snapshot :: post)).snapshots[h.snapshots.length]? = some h.sources.registry := by
  obtain ⟨-, taken, htaken, -⟩ := h.keep.keeps_run post
  rw [show h.run (.snapshot :: post) = h.keep.run post from rfl, htaken, keep, List.append_assoc,
    List.getElem?_append_right (le_refl _), Nat.sub_self]
  rfl

/-! ### Runs of a shared registry -/

/-- The history of a registry that is filled by calls, then shared, and goes through steps. -/
def shared (base : Registry) (calls : List Registry.Call) (steps : List Step) : History :=
  (start (.ofRegistry (base.run calls))).run steps

/-- What calls and then steps register, in order. -/
def registrations (base : Registry) (calls : List Registry.Call) (steps : List Step) :
    List Template :=
  calls.flatMap Registry.Call.registered ++
    (start (.ofRegistry (base.run calls))).registered steps

variable (base : Registry) (calls : List Registry.Call)

theorem shared_append (steps post : List Step) :
    shared base calls (steps ++ post) = (shared base calls steps).run post :=
  List.foldl_append

theorem attached_shared (steps : List Step) : (shared base calls steps).Attached := by
  have hstart : (start (.ofRegistry (base.run calls))).Attached :=
    fun _ hname => absurd hname List.not_mem_nil
  exact hstart.run steps

theorem registry_shared (steps : List Step) :
    (shared base calls steps).sources.registry =
      base.putAll (registrations base calls steps) := by
  rw [registrations, Registry.putAll_append, ← Registry.run_eq]
  exact registry_run (start (.ofRegistry (base.run calls))) steps

/-- Registering once more what was registered gives the same registry. -/
theorem registerAll_registrations (steps : List Step) :
    base.registerAll (registrations base calls steps) =
      ((shared base calls steps).sources.registry, .ok ()) := by
  rw [registry_shared]
  -- A template that was registered is valid, whether a caller or a step of the run did it.
  refine Registry.registerAll_of_valid fun t ht => ?_
  rcases List.mem_append.mp ht with ht | ht
  · obtain ⟨c, -, ht⟩ := List.mem_flatMap.mp ht
    exact Registry.Call.valid_of_mem_registered ht
  · exact valid_of_mem_registered ht

/-- **Runs of a shared registry.** The registry is filled by calls and then shared, and it goes
through steps, of which any may fail.

* No call and no step makes the name of a template disappear.
* Providers are attached to templates that are registered, now and in every later snapshot.
* A step that fails changes nothing.
* A catalog that cannot be read changes nothing, and one that is refused at a template leaves what
  registering the templates in front of it one by one leads to.
* A snapshot stays, and is the registry that results from the successful registrations before it
  alone; so it gives the answers of that registry, where the last template of each name is found. -/
theorem shared_spec (more : List Registry.Call) (steps post : List Step) :
    ((base.run calls).names ⊆ (base.run (calls ++ more)).names ∧
      (shared base calls steps).sources.registry.names ⊆
        (shared base calls (steps ++ post)).sources.registry.names) ∧
    ((shared base calls steps).sources.providers.keys ⊆
        (shared base calls steps).sources.registry.names ∧
      ∃ taken, (shared base calls (steps ++ post)).snapshots =
          (shared base calls steps).snapshots ++ taken ∧
        ∀ r ∈ taken, (shared base calls steps).sources.providers.keys ⊆ r.names) ∧
    (∀ s e, ((shared base calls steps).step s).2 = .error e →
      ((shared base calls steps).step s).1 = shared base calls steps) ∧
    ((∀ text, Catalog.read? text = none →
        (base.run calls).load text = (base.run calls, .error .invalidCatalog)) ∧
      ∀ text front t rest e, Catalog.read? text = some (front ++ t :: rest) →
        (∀ u ∈ front, u.validate = .ok ()) → t.validate = .error e →
        (base.run calls).load text = (base.run (calls ++ front.map .register), .error e)) ∧
    ∃ r, (shared base calls (steps ++ .snapshot :: post)).snapshots[
          (shared base calls steps).snapshots.length]? = some r ∧
        base.registerAll (registrations base calls steps) = (r, .ok ()) ∧
        ∀ name, r.templates.get? name =
          ((registrations base calls steps).reverse.find? fun t => t.name = name).or
            (base.templates.get? name) := by
  -- Providers are attached to registered templates after the steps so far, and what follows only
  -- adds names and snapshots.
  have hattached := attached_shared base calls steps
  obtain ⟨hnames, taken, htaken, hlater⟩ := (shared base calls steps).keeps_run post
  refine ⟨⟨?_, ?_⟩, ⟨hattached, taken, ?_, fun r hr => ?_⟩, fun s e he => step_of_error he,
    ⟨fun text hread => Registry.load_of_none hread, ?_⟩,
    (shared base calls steps).sources.registry, ?_, ?_, fun name => ?_⟩
  · -- Names: more calls and more steps start from what these have left.
    rw [Registry.run_append]
    exact Registry.names_subset_run _ more
  · rw [shared_append]
    exact hnames
  · rw [shared_append]
    exact htaken
  · -- A later snapshot has the names of now, and so those of the providers.
    exact List.Subset.trans hattached (hlater r hr)
  · -- A catalog that fails midway has registered what stands before the template in question.
    intro text front t rest e hread hfront he
    rw [Registry.run_append]
    exact Registry.load_of_error hread hfront he
  · rw [shared_append]
    exact getElem?_snapshots_run _ post
  · -- The snapshot is what the successful registrations come to, the last one of a name being the
    -- one that counts.
    exact registerAll_registrations base calls steps
  · rw [registry_shared]
    exact Registry.get?_putAll base _ name

/-- A catalog is refused at its second template; a provider is attached to the first one and a
registration is refused. The snapshot that is taken then has the first template only, whatever
follows. -/
theorem shared_spec_refused :
    (Registry.empty.run []).load (Catalog.write [⟨"A", []⟩, ⟨"", []⟩]) =
      (Registry.empty.run [.register ⟨"A", []⟩], .error (.invalidTemplateName "")) ∧
    (shared .empty [.register ⟨"A", []⟩]
      [.registerProvider ⟨"A", []⟩, .register ⟨"A.B", []⟩]).sources.providers.keys = ["A"] ∧
    ∃ r, (shared .empty [.register ⟨"A", []⟩] [.registerProvider ⟨"A", []⟩, .register ⟨"A.B", []⟩,
        .snapshot, .register ⟨"B", []⟩]).snapshots[1]? = some r ∧
      Registry.empty.registerAll [⟨"A", []⟩] = (r, .ok ()) := by
  obtain ⟨-, -, -, ⟨-, hload⟩, -⟩ := shared_spec .empty [] [] [] []
  obtain ⟨-, -, -, -, r, hr, hregistered, -⟩ := shared_spec .empty [.register ⟨"A", []⟩] []
    [.registerProvider ⟨"A", []⟩, .register ⟨"A.B", []⟩] [.register ⟨"B", []⟩]
  -- The second template of the catalog has a blank name, and the first one stays registered.
  refine ⟨?_, ?_, r, hr, hregistered⟩
  · refine hload _ [⟨"A", []⟩] ⟨"", []⟩ [] _ ?_ ?_ ?_
    · decide +kernel
    · decide +kernel
    · decide +kernel
  · decide +kernel

end History

end Sources

end MetricSeries
