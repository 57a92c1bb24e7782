import MetricSeries.Proofs.Registry.Registration
import MetricSeries.Proofs.Text.Pieces

/-!
# What a definition selects

`Registry.Selects` says what a definition comes to in a registry and a database, without reference
to how it is looked up: there is one constructor for each outcome, in the order in which they apply,
and each of them demands that nothing an earlier one speaks of is wrong.

In a well-formed registry every definition has one outcome of this kind, and it is the one that is
computed (`WellFormed.resolve_eq_iff`). That the fields of a template have different names is what
makes the field unique that is looked up; that each field offers its default method is why only an
override can ask for a method in vain. Both are part of the invariant of the registries that calls
lead to (`Reachable.resolve_spec`).
-/

namespace MetricSeries

open Fallible

/-! ### Category names -/

namespace Category

variable {text : String}

/-- **A malformed category name** is blank, or has a blank segment before, between or behind its
dots. -/
def Malformed (text : String) : Prop :=
  Text.trim text.toList = [] ∨
    ∃ segment ∈ (Text.trim text.toList).splitOn '.', ∀ c ∈ segment, Text.isBlank c = true

/-- The name of the template of a category: what stands in front of the first dot. -/
def templateName (text : String) : String :=
  String.ofList ((Text.trim text.toList).takeWhile fun c => !c == '.')

/-- A blank name is a blank segment of its own. -/
theorem malformed_iff : Malformed text ↔
    (((Text.trim text.toList).splitOn '.').any fun s => s.all Text.isBlank) = true := by
  simp only [List.any_eq_true, List.all_eq_true]
  refine or_iff_right_of_imp fun hnil => ?_
  rw [hnil]
  exact ⟨[], List.mem_singleton_self _, fun _ hc => absurd hc List.not_mem_nil⟩

instance (text : String) : Decidable (Malformed text) := decidable_of_iff _ malformed_iff.symm

theorem parse_of_malformed (h : Malformed text) :
    parse text = .error (.invalidCategory (Text.trimmed text)) := by
  unfold parse
  exact if_pos (malformed_iff.mp h)

theorem parse_of_not_malformed (h : ¬ Malformed text) :
    parse text = .ok ⟨templateName text, Text.trimmed text⟩ := by
  unfold parse templateName Text.trimmed
  dsimp only
  rw [if_neg (mt malformed_iff.mpr h), Text.headD_splitOn]

theorem parse_eq_ok_iff {c : Category} :
    parse text = .ok c ↔ ¬ Malformed text ∧ c = ⟨templateName text, Text.trimmed text⟩ := by
  by_cases h : Malformed text
  · rw [parse_of_malformed h]
    exact iff_of_false nofun fun hc => hc.1 h
  · rw [parse_of_not_malformed h, Except.ok.injEq, and_iff_right h, eq_comm]

end Category

/-! ### Fields of a template -/

theorem Field.supports_eq_false_iff {f : Field} {m : Method} :
    f.supports m = false ↔ f.aggregation? m = none := by
  unfold Field.supports Field.aggregation? SortedMap.contains
  rw [Bool.eq_false_iff, ne_eq, Option.not_isSome_iff_eq_none]

namespace Template

variable {t : Template} {f : Field} {name : String} {db : Database}

/-- In a template without repeated names, a field is found by its name. -/
theorem Valid.field?_eq_some_iff (h : t.Valid) :
    t.field? name = some f ↔ f ∈ t.fields ∧ f.name = name := by
  unfold field?
  refine ⟨fun hfind => ?_, fun ⟨hmem, hname⟩ => ?_⟩
  · exact ⟨List.mem_of_find?_eq_some hfind, by simpa using List.find?_some hfind⟩
  · -- What is found has the same name, so it is the same field.
    cases hfind : t.fields.find? fun f => decide (f.name = name) with
    | none => exact absurd hname (by simpa using List.find?_eq_none.mp hfind f hmem)
    | some g =>
      have hg : g.name = name := by simpa using List.find?_some hfind
      exact congrArg some (List.inj_on_of_nodup_map h.distinct (List.mem_of_find?_eq_some hfind)
        hmem (hg.trans hname.symm))

/-- The field of a name that exists in a database. -/
theorem Valid.available_eq_some_iff (h : t.Valid) :
    (t.field? name).filter (·.isAvailable db) = some f ↔
      f ∈ t.fields ∧ f.name = name ∧ f.isAvailable db = true := by
  rw [Option.filter_eq_some_iff, h.field?_eq_some_iff, and_assoc]

theorem Valid.available_eq_none_iff (h : t.Valid) :
    (t.field? name).filter (·.isAvailable db) = none ↔
      ∀ f ∈ t.fields, f.name = name → f.isAvailable db = false := by
  rw [Option.eq_none_iff_forall_ne_some]
  refine ⟨fun hnone f hmem hname => ?_, fun hnone f hf => ?_⟩
  · refine eq_false_of_ne_true fun havailable => hnone f ?_
    exact h.available_eq_some_iff.mpr ⟨hmem, hname, havailable⟩
  · -- A field that is found is in the template and available, against the hypothesis.
    obtain ⟨hmem, hname, havailable⟩ := h.available_eq_some_iff.mp hf
    rw [hnone f hmem hname] at havailable
    cases havailable

end Template

/-! ### Outcomes -/

namespace Registry

variable {r : Registry} {db : Database} {d : Definition} {x : Except Error SeriesField}
  {t : Template} {f : Field} {method : Option Method} {category field : String}

/-- **What a definition selects** in a registry and a database. -/
inductive Selects (r : Registry) (db : Database) (d : Definition) :
    Except Error SeriesField → Prop where
  /-- The category is blank or has a blank segment. -/
  | malformed (malformed : Category.Malformed d.category) :
      Selects r db d (.error (.invalidCategory (Text.trimmed d.category)))
  /-- The first segment of the category is not registered. -/
  | noTemplate (named : ¬ Category.Malformed d.category)
      (unknown : Category.templateName d.category ∉ r.names) :
      Selects r db d (.error (.templateNotFound (Category.templateName d.category)))
  /-- The template has no field of the name that exists in the database. -/
  | noField {t : Template} (named : ¬ Category.Malformed d.category)
      (template : r.templates.get? (Category.templateName d.category) = some t)
      (unknown : ∀ f ∈ t.fields, f.name = d.field → f.isAvailable db = false) :
      Selects r db d (.error (.fieldNotFound d.field t.name))
  /-- The field exists, and the definition overrides its method with one that it does not offer. -/
  | unsupported {t : Template} {f : Field} {m : Method} (named : ¬ Category.Malformed d.category)
      (template : r.templates.get? (Category.templateName d.category) = some t)
      (field : f ∈ t.fields ∧ f.name = d.field ∧ f.isAvailable db = true)
      (override : d.method = some m) (unsupported : f.supports m = false) :
      Selects r db d (.error (.unsupportedMethod m.name f.name))
  /-- The field exists, and it maps the method of the definition, or else its own default, to an
  aggregation. -/
  | field {t : Template} {f : Field} {a : Aggregation} (named : ¬ Category.Malformed d.category)
      (template : r.templates.get? (Category.templateName d.category) = some t)
      (field : f ∈ t.fields ∧ f.name = d.field ∧ f.isAvailable db = true)
      (method : f.aggregation? (d.method.getD f.defaultMethod) = some a) :
      Selects r db d (.ok ⟨d.method.getD f.defaultMethod,
        ⟨Category.templateName d.category, Text.trimmed d.category⟩, f, a⟩)

theorem select_of_malformed (h : Category.Malformed category) :
    r.select db method category field = .error (.invalidCategory (Text.trimmed category)) := by
  unfold select
  rw [Category.parse_of_malformed h]
  rfl

theorem select_of_no_template (h : ¬ Category.Malformed category)
    (hname : Category.templateName category ∉ r.names) :
    r.select db method category field =
      .error (.templateNotFound (Category.templateName category)) := by
  unfold select lookup
  rw [Category.parse_of_not_malformed h, ok_bind, SortedMap.get?_eq_none_iff.mpr hname]
  rfl

/-- Once the template is known, the field decides. -/
theorem select_of_template (h : ¬ Category.Malformed category)
    (ht : r.templates.get? (Category.templateName category) = some t) :
    r.select db method category field = match (t.field? field).filter (·.isAvailable db) with
      | some f => SeriesField.select (method.getD f.defaultMethod)
          ⟨Category.templateName category, Text.trimmed category⟩ f
      | none => .error (.fieldNotFound field t.name) := by
  unfold select lookup
  rw [Category.parse_of_not_malformed h, ok_bind, ht]
  rfl

theorem WellFormed.valid_of_get? {name : String} (h : r.WellFormed)
    (ht : r.templates.get? name = some t) : t.Valid :=
  h.valid _ (SortedMap.get?_eq_some_iff.mp ht)

theorem WellFormed.select_of_field (hr : r.WellFormed) (h : ¬ Category.Malformed category)
    (ht : r.templates.get? (Category.templateName category) = some t)
    (hf : f ∈ t.fields ∧ f.name = field ∧ f.isAvailable db = true) :
    r.select db method category field = SeriesField.select (method.getD f.defaultMethod)
      ⟨Category.templateName category, Text.trimmed category⟩ f := by
  rw [select_of_template h ht, (hr.valid_of_get? ht).available_eq_some_iff.mpr hf]

/-- A definition resolves to what it selects. -/
theorem Selects.resolve_eq (hr : r.WellFormed) (h : r.Selects db d x) : r.resolve db d = x := by
  unfold resolve
  -- Each constructor says at which of the checks the resolution ends, the checks before it being
  -- passed.
  cases h with
  | malformed h => exact select_of_malformed h
  | noTemplate h hname => exact select_of_no_template h hname
  | noField h ht hnone =>
    rw [select_of_template h ht, (hr.valid_of_get? ht).available_eq_none_iff.mpr hnone]
  | unsupported h ht hf hmethod hsupports =>
    rw [hr.select_of_field h ht hf, hmethod, Option.getD_some]
    unfold SeriesField.select
    rw [Field.supports_eq_false_iff.mp hsupports]
  | field h ht hf ha =>
    rw [hr.select_of_field h ht hf]
    unfold SeriesField.select
    rw [ha]

/-- Every definition selects something. -/
theorem WellFormed.exists_selects (hr : r.WellFormed) (db : Database) (d : Definition) :
    ∃ x, r.Selects db d x := by
  by_cases h : Category.Malformed d.category
  · exact ⟨_, .malformed h⟩
  cases ht : r.templates.get? (Category.templateName d.category) with
  | none => exact ⟨_, .noTemplate h (SortedMap.get?_eq_none_iff.mp ht)⟩
  | some t =>
    have hvalid := hr.valid_of_get? ht
    cases hfind : (t.field? d.field).filter (·.isAvailable db) with
    | none => exact ⟨_, .noField h ht (hvalid.available_eq_none_iff.mp hfind)⟩
    | some f =>
      have hf := hvalid.available_eq_some_iff.mp hfind
      cases ha : f.aggregation? (d.method.getD f.defaultMethod) with
      | some a => exact ⟨_, .field h ht hf ha⟩
      | none =>
        have hsupports := Field.supports_eq_false_iff.mpr ha
        cases hmethod : d.method with
        | none =>
          -- The default method is always offered.
          rw [hmethod, Option.getD_none, (hvalid.fields f hf.1).offers_default] at hsupports
          cases hsupports
        | some m =>
          rw [hmethod, Option.getD_some] at hsupports
          exact ⟨_, .unsupported h ht hf hmethod hsupports⟩

/-- **A definition resolves to what it selects, and to nothing else.** -/
theorem WellFormed.resolve_eq_iff (hr : r.WellFormed) :
    r.resolve db d = x ↔ r.Selects db d x := by
  refine ⟨fun h => ?_, fun h => h.resolve_eq hr⟩
  obtain ⟨y, hy⟩ := hr.exists_selects db d
  obtain rfl := h.symm.trans (hy.resolve_eq hr)
  exact hy

/-- Only an override can ask for a method that the field does not offer. -/
theorem WellFormed.kind_ne_unsupported (hr : r.WellFormed) {e : Error} (hmethod : d.method = none)
    (h : r.resolve db d = .error e) : e.kind ≠ .unsupportedMethod := by
  cases hr.resolve_eq_iff.mp h with
  | malformed => nofun
  | noTemplate => nofun
  | noField => nofun
  | unsupported _ _ _ override => cases hmethod.symm.trans override

/-- A definition that does not resolve is the fault of the request. -/
theorem isRequest_of_resolve_eq_error {e : Error} (h : r.resolve db d = .error e) :
    e.kind.isRequest = true := by
  unfold resolve select at h
  -- There are four ways to fail, in this order: the category, the template, the method of a field
  -- that was found, and the field that was not found.
  rcases bind_eq_error_iff.mp h with hcategory | ⟨c, -, h⟩
  · unfold Category.parse at hcategory
    dsimp only at hcategory
    split at hcategory
    · obtain rfl := Except.error.inj hcategory
      rfl
    · cases hcategory
  rcases bind_eq_error_iff.mp h with htemplate | ⟨t, -, h⟩
  · unfold lookup at htemplate
    split at htemplate
    · cases htemplate
    · obtain rfl := Except.error.inj htemplate
      rfl
  split at h
  · unfold SeriesField.select at h
    split at h
    · cases h
    · obtain rfl := Except.error.inj h
      rfl
  · obtain rfl := Except.error.inj h
    rfl

/-- An override with the default method changes nothing. -/
theorem WellFormed.resolve_default (hr : r.WellFormed)
    (ht : r.templates.get? (Category.templateName d.category) = some t) (hf : f ∈ t.fields)
    (hname : f.name = d.field) (hmethod : d.method = some f.defaultMethod) :
    r.resolve db d = r.resolve db { d with method := none } := by
  unfold resolve
  dsimp only
  by_cases h : Category.Malformed d.category
  · rw [select_of_malformed h, select_of_malformed h]
  rw [select_of_template h ht, select_of_template h ht]
  cases hfind : (t.field? d.field).filter (·.isAvailable db) with
  | none => rfl
  | some g =>
    -- The field that is found is the one whose default is meant.
    obtain ⟨hmem, hfield, -⟩ := (hr.valid_of_get? ht).available_eq_some_iff.mp hfind
    obtain rfl : g = f := List.inj_on_of_nodup_map (hr.valid_of_get? ht).distinct hmem hf
      (hfield.trans hname.symm)
    dsimp only
    rw [hmethod]
    rfl

/-- **Exact resolution.** Every registry that calls lead to is well-formed, and a definition
resolves in it to what it selects: to the first error of the list that applies, or to the
aggregation of the effective method. Without an override no method is unsupported, and an override
with the default method is the same as none. -/
theorem Reachable.resolve_spec (r : Registry) (h : r.Reachable) :
    r.WellFormed ∧ ∀ (db : Database) (d : Definition),
      (∀ x, r.resolve db d = x ↔ r.Selects db d x) ∧
      (d.method = none → ∀ e, r.resolve db d = .error e → e.kind ≠ .unsupportedMethod) ∧
      ∀ t f, r.templates.get? (Category.templateName d.category) = some t → f ∈ t.fields →
        f.name = d.field → d.method = some f.defaultMethod →
        r.resolve db d = r.resolve db { d with method := none } := by
  have hr := h.wellFormed
  refine ⟨hr, fun db d => ⟨fun x => hr.resolve_eq_iff, fun hmethod e he => ?_, ?_⟩⟩
  · exact hr.kind_ne_unsupported hmethod he
  · intro t f ht hf hname hmethod
    exact hr.resolve_default ht hf hname hmethod

/-- The built-in registry after a template with a dot in its name, which is refused, and one that
takes the place of a built-in template. -/
def replaced : Registry := builtin.run [.register ⟨"Interval.Web", []⟩, .register ⟨"JVM", []⟩]

/-- There a field of the replaced template is gone, and a count has no natural combination. A field
of the timing of SQL is found in a database with the changeset that it requires, and in no other. -/
theorem Reachable.resolve_spec_replaced :
    replaced.Reachable ∧
      replaced.resolve ⟨"ABCD-EFGH", none, [], 0⟩ ⟨none, [], "JVM", "currentThreadCount"⟩ =
        .error (.fieldNotFound "currentThreadCount" "JVM") ∧
      replaced.resolve ⟨"ABCD-EFGH", none, [], 0⟩
          ⟨some .natural, [], " Interval.Web", "totalHits"⟩ =
        .error (.unsupportedMethod "NATURAL" "totalHits") ∧
      replaced.resolve ⟨"ABCD-EFGH", none, ["0003.0"], 0⟩
          ⟨none, [], "Interval", "maxSQLDuration"⟩ =
        .error (.fieldNotFound "maxSQLDuration" "Interval") ∧
      ∃ f, replaced.resolve ⟨"ABCD-EFGH", none, ["0003.0", "0002.0"], 0⟩
          ⟨none, [], "Interval", "maxSQLDuration"⟩ =
        .ok ⟨.max, ⟨"Interval", "Interval"⟩, f, .max "MaxSQLDuration" .integer⟩ := by
  have hreachable : replaced.Reachable := ⟨_, .inr rfl⟩
  obtain ⟨-, hresolve⟩ := Reachable.resolve_spec replaced hreachable
  -- The template of intervals is not replaced.
  have hinterval : replaced.templates.get? "Interval" = some Template.Builtin.interval := by
    decide +kernel
  refine ⟨hreachable, ?_, ?_, ?_, Template.Builtin.interval.fields[8], ?_⟩
  · refine ((hresolve _ _).1 _).mpr (.noField (t := ⟨"JVM", []⟩) ?_ ?_ ?_)
    · decide +kernel
    · decide +kernel
    · exact fun f hf => absurd hf List.not_mem_nil
  · refine ((hresolve _ _).1 _).mpr (.unsupported (t := Template.Builtin.interval)
      (f := Template.Builtin.counter "totalHits" "TotalHits") (m := .natural) ?_ ?_ ?_ rfl ?_)
    · decide +kernel
    · decide +kernel
    · decide +kernel
    · decide +kernel
  · refine ((hresolve _ _).1 _).mpr (.noField (t := Template.Builtin.interval) ?_ ?_ ?_)
    · decide +kernel
    · exact hinterval
    · decide +kernel
  · refine ((hresolve _ _).1 _).mpr (.field (t := Template.Builtin.interval)
      (f := Template.Builtin.interval.fields[8]) (a := .max "MaxSQLDuration" .integer) ?_ ?_ ?_ ?_)
    · decide +kernel
    · exact hinterval
    · decide +kernel
    · decide +kernel

end Registry

end MetricSeries
