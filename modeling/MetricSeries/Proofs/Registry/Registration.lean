import Mathlib.Data.List.Nodup
import Mathlib.Data.List.TakeWhile
import MetricSeries.Proofs.Fallible
import MetricSeries.Proofs.SortedMap
import MetricSeries.Registry

/-!
# What a registry holds

A registry is filled by calls that register one template or the templates of a catalog, and a call
may be refused or stop halfway. Whatever the calls, it comes to the same as putting the valid
templates in front of the first one that is not valid under their names, call by call (`run_eq`).

* `Template.Valid` — the templates that can be registered, by `Template.validate_eq_ok_iff`;
* `Registry.WellFormed` — **the invariant of registries**: every template is valid and kept under
  its own name. It holds at the start and is kept by putting in a valid template, so that it holds
  of every registry that calls lead to (`Reachable.wellFormed`);
* `get?_putAll` — of the templates of one name, the last one that was put in is found.
-/

namespace MetricSeries

open Fallible

/-! ### Valid templates -/

/-- **A valid field** has a name and offers its default method. -/
structure Field.Valid (f : Field) : Prop where
  named : Text.allBlank f.name = false
  offers_default : f.supports f.defaultMethod = true

/-- **A valid template** has a name without dots, and valid fields of different names. -/
structure Template.Valid (t : Template) : Prop where
  named : Text.allBlank t.name = false
  undotted : '.' ∉ t.name.toList
  fields : ∀ f ∈ t.fields, f.Valid
  distinct : (t.fields.map Field.name).Nodup

/-- A field that offers a method offers some. -/
theorem Field.isEmpty_of_supports {f : Field} {m : Method} (h : f.supports m = true) :
    f.aggregations.isEmpty = false := by
  unfold Field.supports SortedMap.contains SortedMap.get? at h
  unfold SortedMap.isEmpty
  cases hentries : f.aggregations.entries with
  | nil =>
    rw [hentries] at h
    cases h
  | cons e es => rfl

theorem Field.validate_eq_ok_iff {f : Field} {template : String} :
    f.validate template = .ok () ↔ f.Valid := by
  unfold Field.validate
  by_cases hblank : Text.allBlank f.name = true
  · rw [if_pos hblank]
    refine iff_of_false nofun fun h => ?_
    exact Bool.false_ne_true (h.named.symm.trans hblank)
  rw [if_neg hblank]
  by_cases hdefault : f.supports f.defaultMethod = true
  · rw [isEmpty_of_supports hdefault, hdefault]
    exact iff_of_true rfl ⟨eq_false_of_ne_true hblank, hdefault⟩
  · -- Without the default method the field is refused, with other methods or without any.
    rw [eq_false_of_ne_true hdefault]
    refine iff_of_false ?_ fun h => hdefault h.offers_default
    cases f.aggregations.isEmpty with
    | false => nofun
    | true => nofun

namespace Template

variable {t : Template} {template : String} {fs : List Field}

/-- The fields are valid, and no name of theirs is repeated or among those seen before. -/
theorem validateFields_eq_ok_iff {seen : List String} :
    validateFields template seen fs = .ok () ↔
      (∀ f ∈ fs, f.Valid) ∧ (fs.map Field.name).Nodup ∧ ∀ f ∈ fs, f.name ∉ seen := by
  induction fs generalizing seen with
  | nil => simp [validateFields]
  | cons f fs ih =>
    unfold validateFields
    rw [bind_eq_ok_iff]
    simp only [List.forall_mem_cons, List.map_cons, List.nodup_cons, List.mem_map, not_exists,
      not_and]
    by_cases hseen : f.name ∈ seen
    · simp [hseen]
    · rw [if_neg hseen, ih]
      -- A later field must not have the name of this one, nor one of those before it.
      simp only [List.mem_cons, not_or]
      refine ⟨?_, ?_⟩
      · rintro ⟨⟨⟩, hf, hvalid, hdistinct, hnew⟩
        exact ⟨⟨Field.validate_eq_ok_iff.mp hf, hvalid⟩,
          ⟨fun g hg => (hnew g hg).1, hdistinct⟩, hseen, fun g hg => (hnew g hg).2⟩
      · rintro ⟨⟨hf, hvalid⟩, ⟨hother, hdistinct⟩, -, hnew⟩
        exact ⟨(), Field.validate_eq_ok_iff.mpr hf, hvalid, hdistinct,
          fun g hg => ⟨hother g hg, hnew g hg⟩⟩

/-- **A template is accepted exactly when it is valid.** -/
theorem validate_eq_ok_iff : t.validate = .ok () ↔ t.Valid := by
  unfold validate
  -- The name is looked at before the fields, and what is wrong with it is one of two things.
  by_cases hname : (Text.allBlank t.name || t.name.toList.contains '.') = true
  · rw [if_pos hname]
    refine iff_of_false nofun fun h => ?_
    rcases Bool.or_eq_true_iff.mp hname with hblank | hdot
    · exact Bool.false_ne_true (h.named.symm.trans hblank)
    · exact h.undotted (List.contains_iff_mem.mp hdot)
  · rw [if_neg hname, validateFields_eq_ok_iff]
    rw [Bool.or_eq_true_iff, not_or, List.contains_iff_mem] at hname
    refine ⟨?_, ?_⟩
    · rintro ⟨hfields, hdistinct, -⟩
      exact ⟨eq_false_of_ne_true hname.1, hname.2, hfields, hdistinct⟩
    · rintro ⟨-, -, hfields, hdistinct⟩
      exact ⟨hfields, hdistinct, fun _ _ => List.not_mem_nil⟩

theorem isOk_validate_iff : t.validate.isOk = true ↔ t.Valid := by
  rw [isOk_iff, ← validate_eq_ok_iff]
  exact ⟨fun ⟨_, h⟩ => h, fun h => ⟨(), h⟩⟩

theorem exists_error_of_not_valid (h : ¬ t.Valid) : ∃ e, t.validate = .error e := by
  refine exists_error_iff.mpr fun ⟨_, hok⟩ => ?_
  exact h (validate_eq_ok_iff.mp hok)

end Template

/-! ### Putting templates in -/

namespace Registry

variable {r : Registry} {t : Template} {ts front rest : List Template} {e : Error}
  {name : String}

/-- The registry with a template under its name, valid or not. -/
def put (r : Registry) (t : Template) : Registry := ⟨r.templates.insert t.name t⟩

/-- The registry with templates put in one after the other. -/
def putAll (r : Registry) (ts : List Template) : Registry := ts.foldl put r

theorem putAll_append : r.putAll (front ++ rest) = (r.putAll front).putAll rest :=
  List.foldl_append

theorem mem_names_iff : name ∈ r.names ↔ ∃ t, r.templates.get? name = some t :=
  SortedMap.mem_keys_iff

/-- No name is lost. -/
theorem names_subset_putAll (r : Registry) (ts : List Template) :
    r.names ⊆ (r.putAll ts).names := by
  induction ts generalizing r with
  | nil => exact List.Subset.refl _
  | cons t ts ih =>
    refine List.Subset.trans (fun name hname => ?_) (ih (r.put t))
    exact SortedMap.mem_keys_insert.mpr (.inr hname)

/-- **The last template of a name** is the one that is found. -/
theorem get?_putAll (r : Registry) (ts : List Template) (name : String) :
    (r.putAll ts).templates.get? name =
      (ts.reverse.find? fun t => t.name = name).or (r.templates.get? name) := by
  -- By induction on the templates. A later one hides an earlier one of its name, so the search goes
  -- from the end.
  induction ts generalizing r with
  | nil => rfl
  | cons t ts ih =>
    have hput : (r.put t).templates.get? name =
        if name = t.name then some t else r.templates.get? name :=
      SortedMap.get?_insert r.templates t.name name t
    rw [show r.putAll (t :: ts) = (r.put t).putAll ts from rfl, ih, hput, List.reverse_cons,
      List.find?_append, Option.or_assoc]
    congr 1
    by_cases h : t.name = name
    · simp [h]
    · simp [h, Ne.symm h]

/-! ### Registering -/

theorem register_of_valid (h : t.Valid) : r.register t = .ok (r.put t) := by
  unfold register
  rw [Template.validate_eq_ok_iff.mpr h]
  rfl

theorem register_of_error (h : t.validate = .error e) : r.register t = .error e := by
  unfold register
  rw [h]
  rfl

theorem registerAll_append (h : ∀ t ∈ front, t.Valid) :
    r.registerAll (front ++ rest) = (r.putAll front).registerAll rest := by
  induction front generalizing r with
  | nil => rfl
  | cons t front ih =>
    obtain ⟨ht, hfront⟩ := List.forall_mem_cons.mp h
    rw [List.cons_append, registerAll, register_of_valid ht]
    exact ih hfront

/-- Valid templates are all registered. -/
theorem registerAll_of_valid (h : ∀ t ∈ ts, t.Valid) :
    r.registerAll ts = (r.putAll ts, .ok ()) := by
  have happend : r.registerAll (ts ++ []) = (r.putAll ts).registerAll [] := registerAll_append h
  rw [List.append_nil] at happend
  exact happend

/-- Registering stops at the first template that is not valid. -/
theorem registerAll_of_error (h : ∀ t ∈ front, t.Valid) (he : t.validate = .error e) :
    r.registerAll (front ++ t :: rest) = (r.putAll front, .error e) := by
  rw [registerAll_append h]
  unfold registerAll
  rw [register_of_error he]

/-- The templates in front of the first one that is not valid. -/
def leading (ts : List Template) : List Template := ts.takeWhile fun t => t.validate.isOk

theorem leading_cons_of_valid (h : t.Valid) : leading (t :: ts) = t :: leading ts := by
  unfold leading
  rw [List.takeWhile_cons, if_pos (Template.isOk_validate_iff.mpr h)]

theorem leading_cons_of_not_valid (h : ¬ t.Valid) : leading (t :: ts) = [] := by
  unfold leading
  rw [List.takeWhile_cons, if_neg (mt Template.isOk_validate_iff.mp h)]

theorem valid_of_mem_leading (h : t ∈ leading ts) : t.Valid := by
  unfold leading at h
  have hok := List.mem_takeWhile_imp h
  exact Template.isOk_validate_iff.mp hok

theorem fst_registerAll (r : Registry) (ts : List Template) :
    (r.registerAll ts).1 = r.putAll (leading ts) := by
  induction ts generalizing r with
  | nil => rfl
  | cons t ts ih =>
    -- Registration stops at the first template that is refused, and what came before it stays.
    by_cases h : t.Valid
    · rw [registerAll, register_of_valid h, leading_cons_of_valid h]
      exact ih (r.put t)
    · obtain ⟨e, he⟩ := Template.exists_error_of_not_valid h
      rw [registerAll, register_of_error he, leading_cons_of_not_valid h]
      rfl

/-! ### Calls -/

/-- What a registry can be asked for to take templates in. -/
inductive Call where
  | register (t : Template)
  | load (text : String)

/-- The registry after a call, whether or not the call is accepted. -/
def after (r : Registry) : Call → Registry
  | .register t =>
    match r.register t with
    | .ok r' => r'
    | .error _ => r
  | .load text => (r.load text).1

/-- The registry after calls, one after the other. -/
def run (r : Registry) (calls : List Call) : Registry := calls.foldl Registry.after r

/-- **A reachable registry**: calls lead to it from the empty or the built-in one. -/
def Reachable (r : Registry) : Prop := ∃ calls, r = empty.run calls ∨ r = builtin.run calls

/-- The templates that a call brings; a catalog that cannot be read brings none. -/
def Call.templates : Call → List Template
  | .register t => [t]
  | .load text => (Catalog.read? text).getD []

/-- The templates that a call registers. -/
def Call.registered (c : Call) : List Template := leading c.templates

theorem Call.valid_of_mem_registered {c : Call} (h : t ∈ c.registered) : t.Valid :=
  valid_of_mem_leading h

theorem load_of_none {text : String} (h : Catalog.read? text = none) :
    r.load text = (r, .error .invalidCatalog) := by
  unfold load
  rw [h]

theorem load_of_some {text : String} (h : Catalog.read? text = some ts) :
    r.load text = ((r.registerAll ts).1, (r.registerAll ts).2.map fun _ => ts.length) := by
  unfold load
  rw [h]

/-- **A call puts in the templates that it registers.** -/
theorem after_eq (r : Registry) (c : Call) : r.after c = r.putAll c.registered := by
  unfold Call.registered
  rw [← fst_registerAll]
  -- A single registration is a list of one, and a catalog that cannot be read is a list of none.
  cases c with
  | register t =>
    dsimp only [Registry.after, Call.templates, registerAll]
    cases r.register t with
    | ok r' => rfl
    | error e => rfl
  | load text =>
    dsimp only [Registry.after, Call.templates]
    cases hread : Catalog.read? text with
    | none => rw [load_of_none hread, Option.getD_none]; rfl
    | some ts => rw [load_of_some hread, Option.getD_some]

/-- **Calls put in the templates that they register**, and do nothing else. -/
theorem run_eq (r : Registry) (calls : List Call) :
    r.run calls = r.putAll (calls.flatMap Call.registered) := by
  induction calls generalizing r with
  | nil => rfl
  | cons c calls ih =>
    rw [List.flatMap_cons, putAll_append, ← after_eq]
    exact ih (r.after c)

theorem run_append (r : Registry) (calls more : List Call) :
    r.run (calls ++ more) = (r.run calls).run more :=
  List.foldl_append

/-! ### The invariant -/

/-- **A well-formed registry** keeps valid templates only, each under its own name. -/
structure WellFormed (r : Registry) : Prop where
  keyed : ∀ e ∈ r.templates.entries, e.1 = e.2.name
  valid : ∀ e ∈ r.templates.entries, e.2.Valid

theorem wellFormed_empty : empty.WellFormed :=
  ⟨fun _ h => absurd h List.not_mem_nil, fun _ h => absurd h List.not_mem_nil⟩

theorem WellFormed.put (h : r.WellFormed) (ht : t.Valid) : (r.put t).WellFormed := by
  constructor
  · intro e he
    rcases SortedMap.mem_insertEntry he with rfl | he
    · rfl
    · exact h.keyed e he
  · intro e he
    rcases SortedMap.mem_insertEntry he with rfl | he
    · exact ht
    · exact h.valid e he

theorem WellFormed.putAll (h : r.WellFormed) (hts : ∀ t ∈ ts, t.Valid) :
    (r.putAll ts).WellFormed := by
  induction ts generalizing r with
  | nil => exact h
  | cons t ts ih =>
    obtain ⟨ht, hts⟩ := List.forall_mem_cons.mp hts
    exact ih (h.put ht) hts

theorem WellFormed.run (h : r.WellFormed) (calls : List Call) : (r.run calls).WellFormed := by
  rw [run_eq]
  refine h.putAll fun t ht => ?_
  obtain ⟨c, -, ht⟩ := List.mem_flatMap.mp ht
  exact Call.valid_of_mem_registered ht

theorem wellFormed_builtin : builtin.WellFormed := by
  unfold builtin
  rw [fst_registerAll]
  exact wellFormed_empty.putAll fun t ht => valid_of_mem_leading ht

/-- **Every reachable registry is well-formed.** -/
theorem Reachable.wellFormed (h : r.Reachable) : r.WellFormed := by
  obtain ⟨calls, rfl | rfl⟩ := h
  · exact wellFormed_empty.run calls
  · exact wellFormed_builtin.run calls

/-- The built-in templates are all valid, so that none is left out. -/
theorem registerAll_builtin_templates :
    empty.registerAll Template.Builtin.templates = (builtin, .ok ()) := by
  have hvalid : ∀ t ∈ Template.Builtin.templates, t.validate = .ok () := by decide +kernel
  unfold builtin
  rw [registerAll_of_valid fun t ht => Template.validate_eq_ok_iff.mp (hvalid t ht)]

end Registry

end MetricSeries
