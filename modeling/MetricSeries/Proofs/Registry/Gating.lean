import MetricSeries.Proofs.Registry.Selection

/-!
# Fields that a database lacks

A field may require a changeset, and a database that lacks it is told that there is no such field.
`Registry.restrict` deletes from a registry the fields that a database lacks. Resolving and listing
cannot tell the two registries apart (`WellFormed.resolve_restrict`, `listFields_restrict`): one
looks for the field of a name first and then at what it requires, the other one keeps what is
available of all fields, and that comes to the same where no name is repeated.

So listing all fields shows the ones that a definition can name (`WellFormed.exists_resolve_iff`),
and a changeset more takes nothing away (`WellFormed.resolve_withChangesets`).
-/

namespace MetricSeries

open Fallible

/-! ### What a field requires -/

namespace Field

variable {f : Field} {db : Database}

theorem isAvailable_iff :
    f.isAvailable db = true ↔ ∀ c, f.requiredChangeset = some c → c ∈ db.changesets := by
  unfold isAvailable Database.hasChangeset
  cases f.requiredChangeset with
  | none => simp
  | some c => simp

/-- A field stays when changesets are added. -/
theorem isAvailable_withChangesets (more : List String) (h : f.isAvailable db = true) :
    f.isAvailable (db.withChangesets more) = true := by
  rw [isAvailable_iff] at h ⊢
  exact fun c hc => List.mem_append_left more (h c hc)

end Field

/-! ### Deleting fields -/

namespace Template

variable {t : Template} {db : Database} {name : String}

/-- The template without the fields whose changeset the database lacks. -/
def restrict (t : Template) (db : Database) : Template :=
  { t with fields := t.fields.filter fun f => f.requiredChangeset.all (· ∈ db.changesets) }

theorem fields_restrict : (t.restrict db).fields = t.fields.filter (·.isAvailable db) := by
  refine List.filter_congr fun f _ => ?_
  rw [Bool.eq_iff_iff, Field.isAvailable_iff]
  simp only [Option.all_eq_true, decide_eq_true_eq]

/-- **Deleting and hiding** a field come to the same, as no other field has its name. -/
theorem Valid.field?_restrict (h : t.Valid) :
    (t.restrict db).field? name = (t.field? name).filter (·.isAvailable db) := by
  have hfind : ∀ f, (t.restrict db).field? name = some f ↔
      (t.field? name).filter (·.isAvailable db) = some f := by
    intro f
    -- Leaving fields out keeps a template valid, so on both sides a field is found by its name
    -- alone.
    have hrestrict : (t.restrict db).Valid := by
      refine ⟨h.named, h.undotted, fun g hg => h.fields g (List.mem_of_mem_filter hg), ?_⟩
      exact h.distinct.sublist (List.filter_sublist.map Field.name)
    rw [hrestrict.field?_eq_some_iff, h.available_eq_some_iff, fields_restrict, List.mem_filter,
      and_assoc,
      and_comm (b := f.name = name)]
  exact Option.ext hfind

/-- What was deleted does not show in a listing anyway. -/
theorem visibleFields_restrict {includeInternal : Bool} :
    (t.restrict db).visibleFields db includeInternal = t.visibleFields db includeInternal := by
  unfold visibleFields
  rw [fields_restrict, List.filter_filter]
  refine List.filter_congr fun f _ => ?_
  unfold Field.isVisible
  rw [Bool.and_assoc, Bool.and_self]

end Template

namespace Registry

variable {r : Registry} {db : Database} {d : Definition} {name : String} {includeInternal : Bool}

/-- The registry without the fields whose changeset the database lacks. -/
def restrict (r : Registry) (db : Database) : Registry := ⟨r.templates.map (·.restrict db)⟩

theorem lookup_restrict : (r.restrict db).lookup name = (r.lookup name).map (·.restrict db) := by
  unfold lookup restrict
  rw [SortedMap.get?_map]
  cases r.templates.get? name with
  | none => rfl
  | some t => rfl

/-- **Listing** does not tell whether a field was deleted or is not available. -/
theorem listFields_restrict :
    (r.restrict db).listFields name db includeInternal = r.listFields name db includeInternal := by
  unfold listFields
  rw [lookup_restrict]
  cases r.lookup name with
  | error e => rfl
  | ok t => exact congrArg Except.ok Template.visibleFields_restrict

/-- **Resolving** does not tell either, whether it succeeds or fails. -/
theorem WellFormed.resolve_restrict (hr : r.WellFormed) :
    (r.restrict db).resolve db d = r.resolve db d := by
  unfold resolve select
  cases Category.parse d.category with
  | error e => rfl
  | ok c =>
    rw [ok_bind, ok_bind, lookup_restrict]
    unfold lookup
    cases ht : r.templates.get? c.template with
    | none => rfl
    | some t =>
      -- The restricted template has the fields that exist, and asking for existence twice is asking
      -- once.
      have hhidden : ((t.restrict db).field? d.field).filter (·.isAvailable db) =
          (t.field? d.field).filter (·.isAvailable db) := by
        rw [(hr.valid_of_get? ht).field?_restrict, Option.filter_filter]
        simp only [Bool.and_self]
      dsimp only [Except.map, ok_bind]
      rw [hhidden]
      rfl

/-! ### Listing and resolving -/

theorem listFields_eq_ok_iff {fs : List Field} :
    r.listFields name db includeInternal = .ok fs ↔
      ∃ t, r.templates.get? name = some t ∧ t.visibleFields db includeInternal = fs := by
  unfold listFields lookup
  cases r.templates.get? name with
  | none => exact iff_of_false nofun nofun
  | some t => simp

/-- A listing that leaves out no internal field has all that is available. -/
theorem mem_visibleFields_iff {t : Template} {f : Field} :
    f ∈ t.visibleFields db true ↔ f ∈ t.fields ∧ f.isAvailable db = true := by
  unfold Template.visibleFields Field.isVisible
  rw [List.mem_filter, Bool.true_or, Bool.true_and]

/-- **Without an override** a definition resolves to the fields that are listed under its name. -/
theorem WellFormed.exists_resolve_iff (hr : r.WellFormed) {c : Category} {f : Field}
    (hc : Category.parse d.category = .ok c) (hmethod : d.method = none) :
    (∃ s, r.resolve db d = .ok s ∧ s.field = f) ↔
      ∃ fs, r.listFields c.template db true = .ok fs ∧ f ∈ fs ∧ f.name = d.field := by
  obtain ⟨hnamed, rfl⟩ := Category.parse_eq_ok_iff.mp hc
  simp only [listFields_eq_ok_iff]
  refine ⟨?_, ?_⟩
  · rintro ⟨s, hs, rfl⟩
    cases hr.resolve_eq_iff.mp hs with
    | field _ ht hf _ => exact ⟨_, ⟨_, ht, rfl⟩, mem_visibleFields_iff.mpr ⟨hf.1, hf.2.2⟩, hf.2.1⟩
  · rintro ⟨-, ⟨t, ht, rfl⟩, hmem, hname⟩
    obtain ⟨hf, havailable⟩ := mem_visibleFields_iff.mp hmem
    -- The default method of the field is one that it offers.
    have hdefault := ((hr.valid_of_get? ht).fields f hf).offers_default
    obtain ⟨a, ha⟩ := Option.isSome_iff_exists.mp hdefault
    refine ⟨_, hr.resolve_eq_iff.mpr (.field hnamed ht ⟨hf, hname, havailable⟩ (a := a) ?_), rfl⟩
    rw [hmethod]
    exact ha

/-- **Adding changesets** leaves what a definition resolves to. -/
theorem WellFormed.resolve_withChangesets (hr : r.WellFormed) {s : SeriesField}
    (more : List String) (h : r.resolve db d = .ok s) :
    r.resolve (db.withChangesets more) d = .ok s := by
  cases hr.resolve_eq_iff.mp h with
  | field hnamed ht hf ha =>
    obtain ⟨hmem, hname, havailable⟩ := hf
    refine hr.resolve_eq_iff.mpr (.field hnamed ht ⟨hmem, hname, ?_⟩ ha)
    exact Field.isAvailable_withChangesets more havailable

/-- **A field that is not available does not exist.** In a registry that calls lead to, resolving
and listing are as if the fields that the database lacks were deleted; a definition without an
override resolves to a field just when the field is listed under its name; and what resolves keeps
resolving to the same when changesets are added. -/
theorem Reachable.gating (r : Registry) (h : r.Reachable) (db : Database) :
    (∀ d, (r.restrict db).resolve db d = r.resolve db d) ∧
    (∀ name includeInternal,
      (r.restrict db).listFields name db includeInternal = r.listFields name db includeInternal) ∧
    (∀ d c f, Category.parse d.category = .ok c → d.method = none →
      ((∃ s, r.resolve db d = .ok s ∧ s.field = f) ↔
        ∃ fs, r.listFields c.template db true = .ok fs ∧ f ∈ fs ∧ f.name = d.field)) ∧
    ∀ d s more, r.resolve db d = .ok s → r.resolve (db.withChangesets more) d = .ok s := by
  have hr := h.wellFormed
  refine ⟨fun d => hr.resolve_restrict, fun name includeInternal => listFields_restrict, ?_, ?_⟩
  · intro d c f hc hmethod
    exact hr.exists_resolve_iff hc hmethod
  · intro d s more hs
    exact hr.resolve_withChangesets more hs

/-- The CPU load of a snapshot is not found before its changeset is applied, and is found then. -/
theorem Reachable.gating_cpuLoad :
    builtin.Reachable ∧
      (builtin.restrict ⟨"ABCD-EFGH", none, [], 0⟩).resolve ⟨"ABCD-EFGH", none, [], 0⟩
          ⟨none, [], "JVM", "systemCpuLoad"⟩ = .error (.fieldNotFound "systemCpuLoad" "JVM") ∧
      ∃ s, builtin.resolve ⟨"ABCD-EFGH", none, ["0003.0"], 0⟩
          ⟨none, [], "JVM", "systemCpuLoad"⟩ = .ok s ∧
        s.field = (Template.Builtin.gauge "systemCpuLoad" "SystemCpuLoad" .float).requires
          Template.Builtin.cpuLoadChangeset := by
  have hreachable : builtin.Reachable := ⟨[], .inr rfl⟩
  obtain ⟨hresolve, -, -, -⟩ :=
    Reachable.gating builtin hreachable ⟨"ABCD-EFGH", none, [], 0⟩
  obtain ⟨-, -, hlisted, -⟩ :=
    Reachable.gating builtin hreachable ⟨"ABCD-EFGH", none, ["0003.0"], 0⟩
  refine ⟨hreachable, ?_, ?_⟩
  · -- The field is hidden without its changeset, and the full registry answers the same.
    rw [hresolve]
    decide +kernel
  · refine (hlisted ⟨none, [], "JVM", "systemCpuLoad"⟩ ⟨"JVM", "JVM"⟩ _ ?_ rfl).mpr
      ⟨Template.Builtin.jvm.visibleFields ⟨"ABCD-EFGH", none, ["0003.0"], 0⟩ true, ?_, ?_, rfl⟩
    · decide +kernel
    · decide +kernel
    · decide +kernel

end Registry

end MetricSeries
