import MetricSeries.Proofs.Json.Records
import MetricSeries.Proofs.Registry.Runs

/-!
# Catalogs that are read back

What is written of a template is what is read of it. This goes up from the recipes, with the kind
as a member among others (`Aggregation.ofJson?_toJson`), over the fields, whose changeset is left
out where there is none (`Field.ofJson?_toJson`), to the templates (`Template.ofJson?_toJson`) and
the catalog as a text (`Catalog.read?_write`). So to write valid templates and to load the text is
to register them one by one (`Registry.load_write`).
-/

namespace MetricSeries

open Json

/-! ### Recipes -/

namespace Aggregation

/-- The members of a recipe but for its kind. -/
def jsonMembers (a : Aggregation) : List (String × Json) :=
  a.members.map fun m => (m.1, .ofString m.2)

/-- The kind is found, and what is left are the other members. -/
theorem splitKind?_toJson (a : Aggregation) :
    splitKind? ((("kind", .ofString a.kindName) :: a.jsonMembers).map fun m => (some m.1, m.2)) =
      some (a.kindName, a.jsonMembers.map fun m => (some m.1, m.2)) := by
  cases a <;> rfl

/-- The members of a recipe are strings, which lie at no depth. -/
theorem readableMembers_jsonMembers (depth : Nat) (a : Aggregation) :
    readableMembers depth (a.jsonMembers.map fun m => (some m.1, m.2)) = true := by
  unfold jsonMembers
  induction a.members with
  | nil => rfl
  | cons m l ih => simpa [readableMembers, readable, Json.ofString] using ih

/-- Each kind reads its members, under the same keys. -/
theorem ofBody?_jsonMembers (a : Aggregation) :
    ofBody? a.kindName (.record a.jsonMembers) = some a := by
  cases a with
  | sum column kind => cases kind <;> rfl
  | average column => rfl
  | naturalAverage numerator denominator => rfl
  | naturalPerMinute counter startTime endTime system => rfl
  | percent numerator denominator => rfl
  | min column kind => cases kind <;> rfl
  | max column kind => cases kind <;> rfl

/-- **Recipes are read back**, at any depth. -/
theorem ofJson?_toJson (depth : Nat) (a : Aggregation) : ofJson? depth a.toJson = some a := by
  have htoJson : a.toJson = .object
      ((("kind", Json.ofString a.kindName) :: a.jsonMembers).map fun m => (some m.1, m.2)) := rfl
  -- The kind is taken out of the members wherever it stands, and decides how the rest is read.
  rw [htoJson]
  unfold ofJson?
  dsimp only
  rw [splitKind?_toJson, Option.bind_eq_bind, Option.bind_some]
  dsimp only
  rw [if_pos (readableMembers_jsonMembers depth a)]
  exact ofBody?_jsonMembers a

theorem wellFormed_toJson (a : Aggregation) : a.toJson.WellFormed := by
  refine .record (List.forall_mem_cons.mpr ⟨.ofString _, ?_⟩)
  exact List.forall_mem_map.mpr fun _ _ => .ofString _

end Aggregation

/-! ### Fields -/

namespace Field

theorem aggregations_read (depth : Nat) (f : Field) :
    asEntries? Method.ofName? (Aggregation.ofJson? depth) f.aggregationsJson =
      some f.aggregations.toList :=
  asEntries?_record (fun e _ => Method.ofName?_name e.1) fun e _ =>
    Aggregation.ofJson?_toJson depth e.2

/-- What is found of a field: its changeset is missing where there is none. -/
theorem fields?_toJson (f : Field) :
    f.toJson.fields?
        ["name", "column", "default_method", "aggregators", "primary", "required_changeset"] =
      some [some (.ofString f.name), some (.ofString f.column),
        some (.ofString f.defaultMethod.name), some f.aggregationsJson, some (.bool f.primary),
        f.requiredChangeset.map .ofString] := by
  unfold toJson
  -- The last member is written only with a changeset, so the record has one key more or less.
  cases f.requiredChangeset with
  | none => exact fields?_record (by simp) _
  | some changeset => exact fields?_record (by simp) _

/-- **Fields are read back**, with or without a changeset. -/
theorem ofJson?_toJson (depth : Nat) (f : Field) : ofJson? depth f.toJson = some f := by
  have hmethod : Method.ofJson? (.ofString f.defaultMethod.name) = some f.defaultMethod :=
    Method.ofName?_name f.defaultMethod
  have haggregations := aggregations_read depth f
  unfold ofJson?
  rw [fields?_toJson]
  simp [required?, withDefault?, hmethod, haggregations, asBool?]

theorem wellFormed_toJson (f : Field) : f.toJson.WellFormed := by
  refine .record (List.forall_mem_append.mpr ⟨?_, ?_⟩)
  · have haggregations : f.aggregationsJson.WellFormed :=
      .record (List.forall_mem_map.mpr fun e _ => e.2.wellFormed_toJson)
    simp [haggregations, WellFormed.bool]
  · cases f.requiredChangeset <;> simp

end Field

/-! ### Templates -/

namespace Template

theorem fields?_toJson (t : Template) :
    t.toJson.fields? ["name", "fields"] =
      some [some (.ofString t.name), some (.array (t.fields.map Field.toJson))] :=
  fields?_record (by simp) _

/-- **Templates are read back**, with their fields in order. -/
theorem ofJson?_toJson (depth : Nat) (t : Template) : ofJson? depth t.toJson = some t := by
  have hfields : asList? (Field.ofJson? depth) (.array (t.fields.map Field.toJson)) =
      some t.fields := asList?_map fun f _ => f.ofJson?_toJson depth
  unfold ofJson?
  rw [fields?_toJson]
  simp [required?, hfields]

theorem wellFormed_toJson (t : Template) : t.toJson.WellFormed := by
  have hfields : (Json.array (t.fields.map Field.toJson)).WellFormed :=
    .array (List.forall_mem_map.mpr fun f _ => f.wellFormed_toJson)
  refine .record ?_
  simp [hfields]

end Template

/-! ### Catalogs -/

variable {ts : List Template} {r : Registry}

/-- **Catalogs are read back.** -/
theorem Catalog.read?_write (ts : List Template) : read? (write ts) = some ts := by
  have hwellFormed : (toJson ts).WellFormed :=
    .array (List.forall_mem_map.mpr fun t _ => t.wellFormed_toJson)
  unfold read? write
  -- What is rendered from a well-formed value is read as this value, whatever its texts hold.
  rw [Json.read?_render hwellFormed]
  exact asList?_map fun t _ => t.ofJson?_toJson catalogDepth

/-- To load a written catalog is to register its templates. -/
theorem Registry.load_write (h : ∀ t ∈ ts, t.Valid) :
    r.load (Catalog.write ts) = (r.putAll ts, .ok ts.length) := by
  rw [load_of_some (Catalog.read?_write ts), registerAll_of_valid h]
  rfl

/-- **Catalogs survive a write and a read.** The templates come back as they were, and where all of
them are valid, to load the text is to register them one by one, in order, and to count them. -/
theorem catalog_roundtrip (ts : List Template) :
    Catalog.read? (Catalog.write ts) = some ts ∧
    ∀ r : Registry, (∀ t ∈ ts, t.validate = .ok ()) →
      r.load (Catalog.write ts) = (r.run (ts.map .register), .ok ts.length) := by
  refine ⟨Catalog.read?_write ts, fun r h => ?_⟩
  -- Loading stops at the first template that is refused, and here none is.
  have hvalid : ∀ t ∈ ts, t.Valid := fun t ht => Template.validate_eq_ok_iff.mp (h t ht)
  rw [Registry.load_write hvalid, Registry.run_map_register hvalid]

/-- A catalog with names that have to be escaped, a field without a changeset and one with, and the
recipes of several kinds. -/
def sampleCatalog : List Template :=
  [ ⟨"Zähler \"\\\n\x01 𝄞",
      [ ((Field.new "b" "c" .max).offer .max (.max "c" .float)).offer .sum (.sum "c" .integer),
        (((Field.new "a" "" .natural).offer .natural (.perMinute "n")).requires "").internal ]⟩,
    ⟨"A", []⟩ ]

theorem catalog_roundtrip_sample :
    (∀ t ∈ sampleCatalog, t.validate = .ok ()) ∧
      Catalog.read? (Catalog.write sampleCatalog) = some sampleCatalog ∧
      Registry.builtin.load (Catalog.write sampleCatalog) =
        (Registry.builtin.run (sampleCatalog.map .register), .ok 2) := by
  have hvalid : ∀ t ∈ sampleCatalog, t.validate = .ok () := by decide +kernel
  obtain ⟨hread, hload⟩ := catalog_roundtrip sampleCatalog
  exact ⟨hvalid, hread, hload Registry.builtin hvalid⟩

end MetricSeries
