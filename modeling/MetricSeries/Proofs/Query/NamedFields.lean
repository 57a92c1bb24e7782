import MetricSeries.Proofs.Definition.Canonical
import MetricSeries.Proofs.Query.Clauses
import MetricSeries.Proofs.Registry.Selection

/-!
# Fields that a text can name

Registration accepts more names than a definition text can hold. A text is cut at its separators
and trimmed before a name is looked up, so a field is out of reach if its name holds a separator or
has blank space around it. The name of a template is less exposed: it is the first segment of a
category, and a segment behind it keeps the blank space at its end.

* `Category.Leads` — what the first segment of a category that can be written must be, and with
  `dotted` a category for each such name;
* `plan_eq_singleton_iff` — a text with one plan has one clause, whose definition resolves;
* `Canonical.of_names` — a definition of one system with such names can be written, and reads back.

Hence the fields that a text can name are known by their names (`exists_plan_iff`).
-/

namespace MetricSeries

open Fallible

/-! ### Names of templates -/

namespace Category

variable {name text : String}

/-- **A name that a category can start with** in a text. -/
structure Leads (name : String) : Prop where
  clause_separator : clauseSeparator ∉ name.toList
  token_separator : tokenSeparator ∉ name.toList
  head : ∀ c ∈ name.toList.head?, Text.isBlank c = false

/-- A category of the template with this name, with one more segment. -/
def dotted (name : String) : String := String.ofList (name.toList ++ ['.', 'x'])

theorem toList_dotted (name : String) : (dotted name).toList = name.toList ++ ['.', 'x'] :=
  String.toList_ofList

/-- The first segment of a category that can be written. -/
theorem leads_templateName (h : Definition.Printable text.toList) : Leads (templateName text) := by
  -- The name is a prefix of the trimmed text and so has none of the separators either.
  have hsubset : ∀ c ∈ (templateName text).toList, c ∈ text.toList := by
    intro c hc
    unfold templateName at hc
    rw [String.toList_ofList, h.trimmed.trim_eq] at hc
    exact List.takeWhile_subset _ hc
  refine ⟨fun hmem => h.clause_separator (hsubset _ hmem),
    fun hmem => h.token_separator (hsubset _ hmem), fun c hc => ?_⟩
  unfold templateName at hc
  rw [String.toList_ofList, h.trimmed.trim_eq, List.head?_takeWhile, Option.mem_def,
    Option.filter_eq_some_iff] at hc
  exact h.trimmed.head c hc.1

theorem Leads.printable_dotted (h : Leads name) (hne : name.toList ≠ []) :
    Definition.Printable (dotted name).toList := by
  rw [toList_dotted]
  refine ⟨⟨fun c hc => ?_, fun c hc => ?_⟩, by simp, ?_, ?_⟩
  · -- The name is at the start of the category, and the segment added to it at the end.
    rw [List.head?_append_of_ne_nil _ hne] at hc
    exact h.head c hc
  · rw [List.getLast?_append_of_ne_nil _ (by simp)] at hc
    obtain rfl := Option.some.inj hc
    rfl
  · rw [List.mem_append, not_or]
    exact ⟨h.token_separator, by decide⟩
  · rw [List.mem_append, not_or]
    exact ⟨h.clause_separator, by decide⟩

theorem Leads.templateName_dotted (h : Leads name) (hne : name.toList ≠ [])
    (hdot : '.' ∉ name.toList) : templateName (dotted name) = name := by
  have hall : ∀ c ∈ name.toList, (!c == '.') = true := by
    intro c hc
    simpa using fun heq : c = '.' => hdot (heq ▸ hc)
  unfold templateName
  rw [(h.printable_dotted hne).trimmed.trim_eq, toList_dotted, List.takeWhile_append_of_pos hall,
    List.takeWhile_cons_of_neg (by decide), List.append_nil, String.ofList_toList]

theorem Leads.not_malformed_dotted (h : Leads name) (hblank : Text.allBlank name = false)
    (hdot : '.' ∉ name.toList) : ¬Malformed (dotted name) := by
  have hprintable := h.printable_dotted (Text.toList_ne_nil hblank)
  have hfirst : name.toList.splitOn '.' = [name.toList] :=
    List.splitOnP_eq_singleton fun c hc => beq_eq_false_iff_ne.mpr fun heq => hdot (heq ▸ hc)
  have hsegments : (dotted name).toList.splitOn '.' = name.toList.splitOn '.' ++ [['x']] := by
    rw [toList_dotted]
    exact List.splitOnP_append_cons name.toList ['x'] (beq_self_eq_true '.')
  -- It is neither blank as a whole nor in one of its two segments.
  rintro (hnil | ⟨segment, hsegment, hall⟩)
  · rw [hprintable.trimmed.trim_eq] at hnil
    exact hprintable.ne_nil hnil
  · rw [hprintable.trimmed.trim_eq, hsegments, hfirst] at hsegment
    rcases List.mem_cons.mp hsegment with rfl | hsegment
    · have hname : Text.allBlank name = true := List.all_eq_true.mpr hall
      rw [hname] at hblank
      cases hblank
    · obtain rfl := List.mem_singleton.mp hsegment
      have hx := hall 'x' List.mem_cons_self
      revert hx
      decide

end Category

/-! ### Definitions with given names -/

namespace Definition

variable {db : Database} {m : Membership} {d : Definition} {category field : String}

/-- **A definition that can be written**: one system, and two names that can be written. -/
theorem Canonical.of_names (hdb : Ident.isIdentity db.id.toList = true)
    (hcategory : Printable category.toList) (hfield : Printable field.toList) :
    Canonical db ⟨none, [⟨db.id, 1⟩], category, field⟩ where
  systems_ne := List.cons_ne_nil _ _
  nodup := List.nodup_singleton _
  scope s hs := by
    obtain rfl := List.mem_singleton.mp hs
    rfl
  nameable s hs := by
    obtain rfl := List.mem_singleton.mp hs
    exact ⟨hdb, show 0 ≤ (1 : Int64).toInt by decide⟩
  category := hcategory
  field := hfield

/-- A written definition is a text of one clause. -/
theorem Canonical.parse_text (h : Canonical db d) : parse db m d.text = .ok [d] := by
  have hall : ∀ d' ∈ [d], Canonical db d' := by
    intro d' hd'
    obtain rfl := List.mem_singleton.mp hd'
    exact h
  have hclauses : clauses d.text.toList = [d.chars] := by
    rw [text, String.toList_ofList]
    have hjoined := clauses_joined_chars (List.cons_ne_nil d []) hall
    rwa [List.map_singleton, Text.joined_singleton] at hjoined
  rw [parse_of_clauses_ne_nil (by rw [hclauses]; exact List.cons_ne_nil _ _), hclauses,
    mapM_eq_ok_iff]
  exact .cons h.parseClause_chars .nil

/-- The names of a definition that stands alone in a text can be written. -/
theorem printable_names_of_parse {text : String} (h : parse db m text = .ok [d]) :
    Printable d.category.toList ∧ Printable d.field.toList := by
  obtain ⟨-, haccepts⟩ := parse_eq_ok_iff.mp h
  obtain ⟨clause, rest, haccept, -, hclauses⟩ := List.forall₂_cons_right_iff.mp haccepts
  exact haccept.printable_names (hclauses ▸ List.mem_cons_self)

end Definition

/-! ### Plans of one clause -/

namespace Environment

variable {env : Environment} {text : String} {aliases : Option String} {p : SeriesPlan}
  {ps : List SeriesPlan} {as : List (List Char)} {d : Definition} {ds : List Definition}
  {t : Template} {f : Field}

theorem planAll_eq_nil_iff : env.planAll as ds = .ok [] ↔ ds = [] := by
  refine ⟨fun h => ?_, fun h => h ▸ planAll_nil as⟩
  cases ds with
  | nil => rfl
  | cons d ds =>
    rw [planAll_cons] at h
    obtain ⟨p, -, h⟩ := bind_eq_ok_iff.mp h
    obtain ⟨ps, -, h⟩ := bind_eq_ok_iff.mp h
    cases h

theorem planAll_eq_singleton_iff : env.planAll as ds = .ok [p] ↔
    ∃ d, ds = [d] ∧ env.planSeries as.head? d = .ok p := by
  refine ⟨fun h => ?_, ?_⟩
  · -- A single plan comes from a single definition, as the rest of the plans is empty.
    cases ds with
    | nil =>
      rw [planAll_nil] at h
      cases h
    | cons d ds =>
      rw [planAll_cons] at h
      obtain ⟨p', hp, h⟩ := bind_eq_ok_iff.mp h
      obtain ⟨ps, hps, h⟩ := bind_eq_ok_iff.mp h
      obtain ⟨rfl, rfl⟩ := List.cons.inj (Except.ok.inj h)
      exact ⟨d, by rw [planAll_eq_nil_iff.mp hps], hp⟩
  · rintro ⟨d, rfl, hp⟩
    rw [planAll_cons, hp, ok_bind, planAll_nil, ok_bind]

/-- **A text with one plan has one clause**, whose definition resolves. -/
theorem plan_eq_singleton_iff : env.plan text aliases = .ok [p] ↔
    ∃ d, Definition.parse env.database env.membership text = .ok [d] ∧
      env.planSeries (aliasList aliases).head? d = .ok p := by
  unfold plan
  simp only [bind_eq_ok_iff, planAll_eq_singleton_iff]
  exact ⟨fun ⟨_, hparse, d, hds, hplan⟩ => ⟨d, hds ▸ hparse, hplan⟩,
    fun ⟨d, hparse, hplan⟩ => ⟨_, hparse, d, rfl, hplan⟩⟩

/-- A plan names what its definition resolves to. -/
theorem exists_resolve_of_planSeries {alias? : Option (List Char)}
    (h : env.planSeries alias? d = .ok p) :
    ∃ s, env.sources.registry.resolve env.database d = .ok s ∧ p.series.category = s.category ∧
      p.series.field = s.field := by
  obtain ⟨s, hresolve, h⟩ := bind_eq_ok_iff.mp h
  obtain rfl := Except.ok.inj h
  exact ⟨s, hresolve, rfl, rfl⟩

theorem exists_planSeries_of_resolve {s : SeriesField} (alias? : Option (List Char))
    (h : env.sources.registry.resolve env.database d = .ok s) :
    ∃ p, env.planSeries alias? d = .ok p ∧ p.series.category = s.category ∧
      p.series.field = s.field := by
  unfold planSeries
  rw [h]
  exact ⟨_, rfl, rfl, rfl⟩

/-- What a text with one plan says of the names. -/
theorem leads_of_plan (hr : env.sources.registry.WellFormed)
    (h : env.plan text aliases = .ok [p]) :
    Category.Leads p.series.category.template ∧
      Definition.Printable p.series.field.name.toList := by
  obtain ⟨d, hparse, hplan⟩ := plan_eq_singleton_iff.mp h
  obtain ⟨hcategory, hfield⟩ := Definition.printable_names_of_parse hparse
  obtain ⟨s, hresolve, hs, hf⟩ := exists_resolve_of_planSeries hplan
  rw [hs, hf]
  -- What is resolved is found under the names of the definition, which was read from a text.
  cases hr.resolve_eq_iff.mp hresolve with
  | field named template field method =>
    refine ⟨Category.leads_templateName hcategory, ?_⟩
    rw [field.2.1]
    exact hfield

/-- **A text for a field** with names that can be written. -/
theorem exists_plan_of_leads (hr : env.sources.registry.WellFormed)
    (hdb : Ident.isIdentity env.database.id.toList = true)
    (ht : env.sources.registry.templates.get? t.name = some t) (hf : f ∈ t.fields)
    (havailable : f.isAvailable env.database = true) (hname : Category.Leads t.name)
    (hfield : Definition.Printable f.name.toList) (aliases : Option String) :
    ∃ text p, env.plan text aliases = .ok [p] ∧ p.series.category.template = t.name ∧
      p.series.field = f := by
  have hvalid : t.Valid := hr.valid_of_get? ht
  have hne := Text.toList_ne_nil hvalid.named
  have htemplate := hname.templateName_dotted hne hvalid.undotted
  let d : Definition := ⟨none, [⟨env.database.id, 1⟩], Category.dotted t.name, f.name⟩
  have hparse : Definition.parse env.database env.membership d.text = .ok [d] :=
    (Definition.Canonical.of_names hdb (hname.printable_dotted hne) hfield).parse_text
  -- The text says no method, and the default one is always on offer.
  obtain ⟨a, ha⟩ : ∃ a, f.aggregation? f.defaultMethod = some a :=
    Option.isSome_iff_exists.mp (hvalid.fields f hf).offers_default
  have hselects : env.sources.registry.Selects env.database d (.ok ⟨f.defaultMethod,
      ⟨Category.templateName d.category, Text.trimmed d.category⟩, f, a⟩) :=
    .field (hname.not_malformed_dotted hvalid.named hvalid.undotted) (htemplate.symm ▸ ht)
      ⟨hf, rfl, havailable⟩ ha
  obtain ⟨p, hplan, hcategory, hpf⟩ :=
    exists_planSeries_of_resolve (aliasList aliases).head? (hselects.resolve_eq hr)
  refine ⟨d.text, p, plan_eq_singleton_iff.mpr ⟨d, hparse, hplan⟩, ?_, hpf⟩
  rw [hcategory]
  exact htemplate

/-- **The fields that a text can name.** In a reachable registry and a database whose identity has
the form of one, a field that is available has a text with one plan for it, if and only if the name
of its template holds no separator and does not start with blank space, and its own name holds no
separator and has no blank space at either end. -/
theorem exists_plan_iff (env : Environment) (aliases : Option String) (key : String) (t : Template)
    (f : Field) (hr : env.sources.registry.Reachable)
    (hdb : Ident.isIdentity env.database.id.toList = true)
    (ht : env.sources.registry.templates.get? key = some t) (hf : f ∈ t.fields)
    (havailable : f.isAvailable env.database = true) :
    (∃ text p, env.plan text aliases = .ok [p] ∧ p.series.category.template = t.name ∧
        p.series.field = f) ↔
      ('_' ∉ t.name.toList ∧ '~' ∉ t.name.toList ∧
        ∀ c ∈ t.name.toList.head?, Text.isBlank c = false) ∧
      '_' ∉ f.name.toList ∧ '~' ∉ f.name.toList ∧ Text.Trimmed f.name.toList := by
  have hwf := hr.wellFormed
  have hkey : key = t.name := hwf.keyed _ (SortedMap.get?_eq_some_iff.mp ht)
  subst hkey
  refine ⟨?_, ?_⟩
  · -- From a text: its tokens have lost the separators and the blank space at their ends.
    rintro ⟨text, p, hplan, htemplate, hfield⟩
    obtain ⟨hleads, hprintable⟩ := leads_of_plan hwf hplan
    rw [htemplate] at hleads
    rw [hfield] at hprintable
    exact ⟨⟨hleads.clause_separator, hleads.token_separator, hleads.head⟩,
      hprintable.clause_separator, hprintable.token_separator, hprintable.trimmed⟩
  · rintro ⟨⟨hclause, htoken, hhead⟩, hclause', htoken', htrimmed⟩
    -- To a text: a segment behind a dot keeps the end of a name of a template from being trimmed.
    have hne := Text.toList_ne_nil ((hwf.valid_of_get? ht).fields f hf).named
    exact exists_plan_of_leads hwf hdb ht hf havailable ⟨hclause, htoken, hhead⟩
      ⟨htrimmed, hne, htoken', hclause'⟩ aliases

/-- A field whose name has blank space within, in templates whose names have blank space behind and
in front. -/
def paddedField : Field := (Field.new "x y" "X" .sum).offer .sum (.sum "X" .integer)

def paddedTemplates : List Template := [⟨"Z ", [paddedField]⟩, ⟨" Z", [paddedField]⟩]

def paddedNames : Environment :=
  { sample [] with
    sources := .ofRegistry (Registry.empty.run (paddedTemplates.map .register)) }

/-- The field is within reach in the first of the two templates only. -/
theorem exists_plan_iff_padded :
    (∃ text p, paddedNames.plan text none = .ok [p] ∧ p.series.category.template = "Z " ∧
      p.series.field = paddedField) ∧
    ¬∃ text p, paddedNames.plan text none = .ok [p] ∧ p.series.category.template = " Z" ∧
      p.series.field = paddedField := by
  have hreachable : paddedNames.sources.registry.Reachable := ⟨_, .inl rfl⟩
  have hfirst := exists_plan_iff paddedNames none "Z " ⟨"Z ", [paddedField]⟩ paddedField hreachable
    (by decide +kernel) (by decide +kernel) (List.mem_singleton_self _) rfl
  have hsecond := exists_plan_iff paddedNames none " Z" ⟨" Z", [paddedField]⟩ paddedField
    hreachable (by decide +kernel) (by decide +kernel) (List.mem_singleton_self _) rfl
  -- Blank space within the name of the field is not at either end of it.
  have hname : ∀ c ∈ "Z ".toList.head?, Text.isBlank c = false := by
    intro c hc
    obtain rfl : 'Z' = c := Option.some.inj hc
    rfl
  have htrimmed : Text.Trimmed paddedField.name.toList := by
    refine ⟨fun c hc => ?_, fun c hc => ?_⟩
    · obtain rfl : 'x' = c := Option.some.inj hc
      rfl
    · obtain rfl : 'y' = c := Option.some.inj hc
      rfl
  refine ⟨hfirst.mpr ⟨⟨by decide, by decide, hname⟩, by decide, by decide, htrimmed⟩, fun h => ?_⟩
  exact absurd ((hsecond.mp h).1.2.2 ' ' rfl) (by decide)

end Environment

end MetricSeries
