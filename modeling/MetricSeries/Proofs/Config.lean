import MetricSeries.Config
import MetricSeries.Proofs.Fallible
import MetricSeries.Proofs.Json.Records

/-!
# Layers of settings

Settings are read from a JSON text and overridden from the environment, and each layer checks what
it yields (`Config.validate_eq_ok_iff`). So whatever comes out of a layer is valid, from every text
and over every base. The other way round, valid settings are read back as they are written
(`Config.read_write`).

What the environment makes of settings is stated here without reference to how it is done. A setting
in layers keeps its value where its variable is not set, and takes the value that the variable
spells where it is (`Layered`); three settings are of this kind, and the columns stay
(`Config.Overlays`). Overriding yields this overlay if that is valid, and fails otherwise
(`Config.override_eq_ok_iff`). As what is laid over settings does not depend on them, a second time
changes nothing (`Config.Overlays.again`).
-/

namespace MetricSeries

open Fallible

/-! ### Settings in layers -/

section

variable {α : Type} {Spells : String → α → Prop} {setting : Option String} {a b b' : α}

/-- **A setting in layers**: it keeps its value where the variable is not set, and takes the one
that the variable spells where it is. -/
inductive Layered (Spells : String → α → Prop) : Option String → α → α → Prop where
  | unset (a : α) : Layered Spells none a a
  | set {text : String} {a b : α} (h : Spells text b) : Layered Spells (some text) a b

/-- A layer that is put on twice is there once. -/
theorem Layered.again (h : Layered Spells setting a b) : Layered Spells setting b b := by
  cases h with
  | unset => exact .unset a
  | set h => exact .set h

theorem Layered.unique (hspells : ∀ text b b', Spells text b → Spells text b' → b = b')
    (h : Layered Spells setting a b) (h' : Layered Spells setting a b') : b = b' := by
  cases h with
  | unset => cases h'; rfl
  | set h =>
    cases h' with
    | set h' => exact hspells _ _ _ h h'

/-- A layer can be put on unless the variable is set and spells nothing. -/
theorem exists_layered_iff :
    (∃ b, Layered Spells setting a b) ↔ ∀ text ∈ setting, ∃ b, Spells text b := by
  cases setting with
  | none => exact iff_of_true ⟨a, .unset a⟩ (by rintro text ⟨⟩)
  | some text =>
    refine ⟨?_, fun h => ?_⟩
    · rintro ⟨b, ⟨⟩ | h⟩ _ ⟨⟩
      exact ⟨b, h⟩
    · obtain ⟨b, hb⟩ := h text rfl
      exact ⟨b, .set hb⟩

end

namespace Config

variable {c c' : Config} {text : String} {lookup : String → Option String}

/-! ### Valid settings -/

/-- **Valid settings** allow for a point, name every column and keep 15 decimal places at most. -/
structure Valid (c : Config) : Prop where
  maxPoints : 1 ≤ c.maxPoints.toNat
  timeColumn : Text.allBlank c.timeColumn = false
  startTimeColumn : Text.allBlank c.startTimeColumn = false
  systemColumn : Text.allBlank c.systemColumn = false
  precision : c.precision.toNat ≤ 15

/-- **The check accepts valid settings** and no others. -/
theorem validate_eq_ok_iff : c.validate = .ok () ↔ c.Valid := by
  have hpoints : c.maxPoints = 0 ↔ ¬ 1 ≤ c.maxPoints.toNat := by
    rw [← UInt64.toNat_inj, UInt64.toNat_zero]
    omega
  have hprecision : 15 < c.precision ↔ ¬ c.precision.toNat ≤ 15 := by
    rw [UInt32.lt_iff_toNat_lt, Nat.not_le]
    rfl
  unfold validate
  by_cases hzero : c.maxPoints = 0
  · rw [if_pos hzero]
    exact iff_of_false nofun fun h => hpoints.mp hzero h.maxPoints
  rw [if_neg hzero]
  cases hblank : c.columns.find? fun column => Text.allBlank column.2 with
  | some column =>
    have hfound := List.find?_some hblank
    refine iff_of_false nofun fun h => ?_
    -- The column that was found is one of the three.
    have hcolumns : ∀ column ∈ c.columns, Text.allBlank column.2 = false := by
      simp [columns, h.timeColumn, h.startTimeColumn, h.systemColumn]
    rw [hcolumns column (List.mem_of_find?_eq_some hblank)] at hfound
    cases hfound
  | none =>
    have hcolumns : Text.allBlank c.timeColumn = false ∧ Text.allBlank c.startTimeColumn = false ∧
        Text.allBlank c.systemColumn = false := by
      simpa [columns] using hblank
    obtain ⟨htime, hstart, hsystem⟩ := hcolumns
    dsimp only
    by_cases hlong : 15 < c.precision
    · rw [if_pos hlong]
      exact iff_of_false nofun fun h => hprecision.mp hlong h.precision
    · rw [if_neg hlong]
      exact iff_of_true rfl ⟨not_not.mp (mt hpoints.mpr hzero), htime, hstart, hsystem,
        not_not.mp (mt hprecision.mpr hlong)⟩

theorem validated_eq_ok_iff : c.validated = .ok c' ↔ c.Valid ∧ c = c' := by
  unfold validated
  rw [bind_eq_ok_iff, ← validate_eq_ok_iff]
  refine ⟨?_, ?_⟩
  · rintro ⟨⟨⟩, hvalid, h⟩
    exact ⟨hvalid, Except.ok.inj h⟩
  · rintro ⟨hvalid, rfl⟩
    exact ⟨(), hvalid, rfl⟩

/-! ### Settings in JSON -/

/-- **A text yields valid settings** only. -/
theorem read_eq_ok_iff :
    read text = .ok c ↔ (Json.read? text).bind ofJson? = some c ∧ c.Valid := by
  unfold read
  -- Reading is decoding and then checking; a text that does not decode has no configuration.
  cases (Json.read? text).bind ofJson? with
  | none => exact iff_of_false nofun fun h => nomatch h.1
  | some base =>
    dsimp only
    rw [validated_eq_ok_iff, Option.some.injEq]
    refine ⟨?_, ?_⟩
    · rintro ⟨hvalid, rfl⟩
      exact ⟨rfl, hvalid⟩
    · rintro ⟨rfl, hvalid⟩
      exact ⟨hvalid, rfl⟩

theorem fields?_toJson (c : Config) :
    c.toJson.fields? keys =
      some [some (.ofNat c.maxPoints.toNat), some (.ofString c.timeColumn),
        some (.ofString c.startTimeColumn), some (.ofString c.systemColumn),
        some (match c.schema with
          | some s => .ofString s
          | none => .null),
        some (.ofNat c.precision.toNat)] :=
  Json.fields?_record (by simp) _

/-- **Settings are read back** as they are written. -/
theorem ofJson?_toJson (c : Config) : ofJson? c.toJson = some c := by
  -- The numbers are written as natural numbers within the bounds that are checked when they are
  -- read.
  have hmaxPoints : maxPointsOfJson? (.ofNat c.maxPoints.toNat) = some c.maxPoints := by
    unfold maxPointsOfJson?
    rw [Json.asNatBelow?_ofNat c.maxPoints.toNat_lt_size, Option.map_some, UInt64.ofNat_toNat]
  have hprecision : precisionOfJson? (.ofNat c.precision.toNat) = some c.precision := by
    unfold precisionOfJson?
    rw [Json.asNatBelow?_ofNat c.precision.toNat_lt_size, Option.map_some, UInt32.ofNat_toNat]
  have hschema : Json.optional? Json.asString?
      (some (match c.schema with
        | some s => .ofString s
        | none => .null)) = some c.schema := by
    cases c.schema <;> rfl
  unfold ofJson?
  rw [fields?_toJson]
  simp [Json.withDefault?, hmaxPoints, hschema, hprecision]

theorem wellFormed_toJson (c : Config) : c.toJson.WellFormed := by
  refine .record ?_
  cases c.schema <;> simp [Json.WellFormed.null]

/-- **Valid settings survive a write and a read.** -/
theorem read_write (h : c.Valid) : read c.write = .ok c := by
  rw [read_eq_ok_iff]
  unfold write
  rw [Json.read?_render c.wellFormed_toJson, Option.bind_some]
  exact ⟨c.ofJson?_toJson, h⟩

/-! ### What the environment spells -/

/-- **A number in the environment**: ASCII digits with blank space around them and possibly a plus
sign in front, whose value is less than a bound. -/
inductive SpellsBelow (bound : Nat) (text : String) (n : Nat) : Prop where
  | plain (h : Text.NumeralBelow bound (Text.trim text.toList) n)
  | signed {digits : List Char} (hsign : Text.trim text.toList = '+' :: digits)
      (h : Text.NumeralBelow bound digits n)

/-- **A schema in the environment**: the text without the blank space around it, if any is left. -/
inductive SpellsSchema (text : String) : Option String → Prop where
  | blank (h : Text.allBlank text = true) : SpellsSchema text none
  | named (h : Text.allBlank text = false) : SpellsSchema text (some (Text.trimmed text))

/-- **An overlay**: three of the settings have what the environment sets, and all others stay. -/
structure Overlays (lookup : String → Option String) (c c' : Config) : Prop where
  maxPoints : Layered (fun text (n : UInt64) => SpellsBelow UInt64.size text n.toNat)
    (lookup maxPointsVariable) c.maxPoints c'.maxPoints
  schema : Layered SpellsSchema (lookup schemaVariable) c.schema c'.schema
  precision : Layered (fun text (n : UInt32) => SpellsBelow UInt32.size text n.toNat)
    (lookup precisionVariable) c.precision c'.precision
  timeColumn : c'.timeColumn = c.timeColumn
  startTimeColumn : c'.startTimeColumn = c.startTimeColumn
  systemColumn : c'.systemColumn = c.systemColumn

theorem spellsBelow_iff {bound n : Nat} : SpellsBelow bound text n ↔
    Text.readNatBelow? bound (Text.trim text.toList) = some n := by
  rw [Text.readNatBelow?_eq_some_iff]
  refine ⟨?_, ?_⟩
  · rintro (h | ⟨hsign, h⟩)
    · exact .inl h
    · exact .inr ⟨_, hsign, h⟩
  · rintro (h | ⟨digits, hsign, h⟩)
    · exact .plain h
    · exact .signed hsign h

theorem SpellsBelow.unique {bound n n' : Nat} (h : SpellsBelow bound text n)
    (h' : SpellsBelow bound text n') : n = n' :=
  Option.some.inj ((spellsBelow_iff.mp h).symm.trans (spellsBelow_iff.mp h'))

theorem SpellsBelow.lt {bound n : Nat} (h : SpellsBelow bound text n) : n < bound := by
  cases h with
  | plain h => exact h.lt
  | signed _ h => exact h.lt

section Numbers

-- The numbers of a setting are those below a bound, in a type of their own.
variable {α : Type} {bound : Nat} {ofNat : Nat → α} {toNat : α → Nat}
  (hto : ∀ n < bound, toNat (ofNat n) = n)

include hto

theorem exists_layered_number_iff (setting : Option String) (a : α) :
    (∃ b, Layered (fun text b => SpellsBelow bound text (toNat b)) setting a b) ↔
      ∀ text ∈ setting, ∃ n, SpellsBelow bound text n := by
  rw [exists_layered_iff]
  refine forall₂_congr fun text _ => ⟨fun ⟨b, hb⟩ => ⟨_, hb⟩, fun ⟨n, hn⟩ => ⟨ofNat n, ?_⟩⟩
  rwa [hto n hn.lt]

/-- **A number is overridden** by the one that is spelled, if it is set. -/
theorem overrideNumber_eq_ok_iff (hof : ∀ a, ofNat (toNat a) = a) {a : α}
    {setting : Option String} (put : α → Config) (refused : String → Error) :
    (match setting with
      | none => .ok (put a)
      | some text =>
        match Text.readNatBelow? bound (Text.trim text.toList) with
        | some n => .ok (put (ofNat n))
        | none => .error (refused text)) = Except.ok c' ↔
      ∃ b, Layered (fun text b => SpellsBelow bound text (toNat b)) setting a b ∧ c' = put b := by
  refine ⟨fun h => ?_, ?_⟩
  · split at h
    next => exact ⟨a, .unset a, (Except.ok.inj h).symm⟩
    next text =>
      split at h
      next n hn =>
        have hspells := spellsBelow_iff.mpr hn
        refine ⟨ofNat n, .set ?_, (Except.ok.inj h).symm⟩
        rwa [hto n hspells.lt]
      next => cases h
  · rintro ⟨b, hlayered, rfl⟩
    -- A setting that is not there keeps the value, and one that is there must spell the new one.
    cases hlayered with
    | unset => rfl
    | set hb =>
      dsimp only
      rw [spellsBelow_iff.mp hb]
      dsimp only
      rw [hof]

end Numbers

theorem SpellsSchema.unique {schema schema' : Option String} (h : SpellsSchema text schema)
    (h' : SpellsSchema text schema') : schema = schema' := by
  -- A text cannot be both blank and a name, so only the two diagonal cases are left.
  cases h with
  | blank h =>
    cases h' with
    | blank => rfl
    | named h' => exact absurd (h.symm.trans h') (by decide)
  | named h =>
    cases h' with
    | blank h' => exact absurd (h.symm.trans h') (by decide)
    | named => rfl

/-- Every text spells a schema, or that there is none. -/
theorem exists_layered_schema (setting schema : Option String) :
    ∃ schema', Layered SpellsSchema setting schema schema' := by
  refine exists_layered_iff.mpr fun text _ => ?_
  cases h : Text.allBlank text with
  | true => exact ⟨none, .blank h⟩
  | false => exact ⟨_, .named h⟩

/-! ### Overlays -/

namespace Overlays

/-- **A second overlay changes nothing.** -/
theorem again (h : Overlays lookup c c') : Overlays lookup c' c' :=
  ⟨h.maxPoints.again, h.schema.again, h.precision.again, rfl, rfl, rfl⟩

theorem unique {c'' : Config} (h : Overlays lookup c c') (h' : Overlays lookup c c'') :
    c' = c'' := by
  have hmaxPoints : c'.maxPoints = c''.maxPoints :=
    h.maxPoints.unique (fun _ _ _ hn hn' => UInt64.toNat_inj.mp (hn.unique hn')) h'.maxPoints
  have hschema : c'.schema = c''.schema :=
    h.schema.unique (fun _ _ _ hs hs' => hs.unique hs') h'.schema
  have hprecision : c'.precision = c''.precision :=
    h.precision.unique (fun _ _ _ hn hn' => UInt32.toNat_inj.mp (hn.unique hn')) h'.precision
  -- The columns are those of the lower layer in both, so that all six fields agree.
  obtain ⟨-, -, -, htime, hstart, hsystem⟩ := h
  obtain ⟨-, -, -, htime', hstart', hsystem'⟩ := h'
  cases c'
  cases c''
  simp_all

end Overlays

/-- **There is an overlay** where the numbers that are set are spelled. -/
theorem exists_overlays_iff (c : Config) : (∃ c', Overlays lookup c c') ↔
    (∀ text ∈ lookup maxPointsVariable, ∃ n, SpellsBelow UInt64.size text n) ∧
      ∀ text ∈ lookup precisionVariable, ∃ n, SpellsBelow UInt32.size text n := by
  have hmaxPoints_iff := exists_layered_number_iff (fun _ => UInt64.toNat_ofNat_of_lt')
    (lookup maxPointsVariable) c.maxPoints
  have hprecision_iff := exists_layered_number_iff (fun _ => UInt32.toNat_ofNat_of_lt')
    (lookup precisionVariable) c.precision
  refine ⟨?_, ?_⟩
  · rintro ⟨c', hmaxPoints, -, hprecision, -⟩
    exact ⟨hmaxPoints_iff.mp ⟨_, hmaxPoints⟩, hprecision_iff.mp ⟨_, hprecision⟩⟩
  · -- Any text is a schema, so only the two numbers can be in the way of an overlay.
    rintro ⟨hmaxPoints, hprecision⟩
    obtain ⟨maxPoints, hmaxPoints⟩ := hmaxPoints_iff.mpr hmaxPoints
    obtain ⟨schema, hschema⟩ := exists_layered_schema (lookup schemaVariable) c.schema
    obtain ⟨precision, hprecision⟩ := hprecision_iff.mpr hprecision
    exact ⟨{ c with maxPoints, schema, precision }, hmaxPoints, hschema, hprecision, rfl, rfl, rfl⟩

/-! ### Overriding -/

theorem overrideMaxPoints_eq_ok_iff {setting : Option String} :
    c.overrideMaxPoints setting = .ok c' ↔ ∃ n,
      Layered (fun text (n : UInt64) => SpellsBelow UInt64.size text n.toNat) setting
        c.maxPoints n ∧ c' = { c with maxPoints := n } :=
  overrideNumber_eq_ok_iff (fun _ => UInt64.toNat_ofNat_of_lt') (fun _ => UInt64.ofNat_toNat)
    (fun maxPoints => { c with maxPoints }) (.invalidMaxPoints maxPointsVariable)

theorem overridePrecision_eq_ok_iff {setting : Option String} :
    c.overridePrecision setting = .ok c' ↔ ∃ n,
      Layered (fun text (n : UInt32) => SpellsBelow UInt32.size text n.toNat) setting
        c.precision n ∧ c' = { c with precision := n } :=
  overrideNumber_eq_ok_iff (fun _ => UInt32.toNat_ofNat_of_lt') (fun _ => UInt32.ofNat_toNat)
    (fun precision => { c with precision }) (.invalidPrecision precisionVariable)

theorem overrideSchema_of_layered {setting schema : Option String}
    (h : Layered SpellsSchema setting c.schema schema) :
    c.overrideSchema setting = { c with schema } := by
  cases h with
  | unset => rfl
  | set h =>
    unfold overrideSchema
    cases h with
    | blank h => simp [h]
    | named h => simp [h]

/-- **Overriding yields the overlay** if that is valid. -/
theorem override_eq_ok_iff : c.override lookup = .ok c' ↔ Overlays lookup c c' ∧ c'.Valid := by
  obtain ⟨schema, hschema⟩ := exists_layered_schema (lookup schemaVariable) c.schema
  -- The schema cannot fail and does not look at the other settings.
  have hstep : ∀ maxPoints, overrideSchema { c with maxPoints } (lookup schemaVariable) =
      { c with maxPoints, schema } := fun maxPoints => overrideSchema_of_layered hschema
  unfold override
  simp only [bind_eq_ok_iff, overrideMaxPoints_eq_ok_iff, overridePrecision_eq_ok_iff,
    validated_eq_ok_iff]
  refine ⟨?_, ?_⟩
  · rintro ⟨_, ⟨maxPoints, hmaxPoints, rfl⟩, _, ⟨precision, hprecision, rfl⟩, hvalid, rfl⟩
    rw [hstep] at hprecision hvalid ⊢
    exact ⟨⟨hmaxPoints, hschema, hprecision, rfl, rfl, rfl⟩, hvalid⟩
  · rintro ⟨hoverlays, hvalid⟩
    refine ⟨_, ⟨_, hoverlays.maxPoints, rfl⟩, c', ⟨c'.precision, ?_, ?_⟩, hvalid, rfl⟩
    · rw [hstep]
      exact hoverlays.precision
    · rw [hstep]
      exact hoverlays.unique
        ⟨hoverlays.maxPoints, hschema, hoverlays.precision, rfl, rfl, rfl⟩

/-- **Layers of settings are valid and compose.** Reading and overriding yield valid settings only,
and valid settings survive a write and a read. Overriding succeeds if and only if the numbers that
are set are spelled and what they and the schema are laid over is valid then; it yields this
overlay, and yields it again over itself. -/
theorem layers_valid_and_compose :
    (∀ text c, read text = .ok c → c.Valid) ∧
    (∀ c : Config, c.Valid → read c.write = .ok c) ∧
    ∀ (c : Config) (lookup : String → Option String),
      ((∃ c', c.override lookup = .ok c') ↔
        (∀ text ∈ lookup maxPointsVariable, ∃ n, SpellsBelow UInt64.size text n) ∧
        (∀ text ∈ lookup precisionVariable, ∃ n, SpellsBelow UInt32.size text n) ∧
        ∀ c', Overlays lookup c c' → c'.Valid) ∧
      ∀ c', c.override lookup = .ok c' →
        c'.Valid ∧ Overlays lookup c c' ∧ c'.override lookup = .ok c' := by
  refine ⟨fun text c h => (read_eq_ok_iff.mp h).2, fun c => read_write, fun c lookup => ⟨?_, ?_⟩⟩
  · -- An overlay is unique, so that it exists and is valid exactly if it exists and all are valid.
    rw [← and_assoc, ← exists_overlays_iff c]
    simp only [override_eq_ok_iff]
    refine ⟨?_, ?_⟩
    · rintro ⟨c', hoverlays, hvalid⟩
      exact ⟨⟨c', hoverlays⟩, fun c'' hoverlays' => hoverlays.unique hoverlays' ▸ hvalid⟩
    · rintro ⟨⟨c', hoverlays⟩, hvalid⟩
      exact ⟨c', hoverlays, hvalid c' hoverlays⟩
  · intro c' h
    obtain ⟨hoverlays, hvalid⟩ := override_eq_ok_iff.mp h
    exact ⟨hvalid, hoverlays, override_eq_ok_iff.mpr ⟨hoverlays.again, hvalid⟩⟩

/-- An environment that sets all three variables. -/
def sampleEnvironment (name : String) : Option String :=
  [(maxPointsVariable, " +0120\t"), (schemaVariable, " dbo "), (precisionVariable, "15")].lookup
    name

/-- Defaults fill what a text leaves out, and the environment replaces it. A precision that is
spelled, but too high, makes valid settings invalid. -/
theorem layers_valid_and_compose_sample :
    Valid { maxPoints := 60 } ∧
      read (write { maxPoints := 60 }) = .ok { maxPoints := 60 } ∧
      override { maxPoints := 60 } sampleEnvironment =
        .ok { maxPoints := 120, schema := some "dbo", precision := 15 } ∧
      override { maxPoints := 120, schema := some "dbo", precision := 15 } sampleEnvironment =
        .ok { maxPoints := 120, schema := some "dbo", precision := 15 } ∧
      ∀ c', Overlays (fun _ => some "16") { maxPoints := 60 } c' → ¬ c'.Valid := by
  obtain ⟨hread, hwrite, hoverride⟩ := layers_valid_and_compose
  have htext : read "\x7b\"max_points_per_series\": 60\x7d" = .ok { maxPoints := 60 } := by
    decide +kernel
  have hvalid : Valid { maxPoints := 60 } := hread _ _ htext
  have hset : override { maxPoints := 60 } sampleEnvironment =
      .ok { maxPoints := 120, schema := some "dbo", precision := 15 } := by decide +kernel
  refine ⟨hvalid, hwrite _ hvalid, hset, ((hoverride _ _).2 _ hset).2.2, fun c' hoverlays hc' => ?_⟩
  have hspells : ∀ bound, 16 < bound → SpellsBelow bound "16" 16 := fun bound hbound =>
    .plain ⟨by decide, List.all_eq_true.mp (by decide), by decide, hbound⟩
  -- The overlay would be the result if it were valid, but there is none.
  obtain ⟨c'', hc''⟩ := (hoverride { maxPoints := 60 } fun _ => some "16").1.mpr
    ⟨by rintro text ⟨⟩; exact ⟨16, hspells _ (by decide)⟩,
      by rintro text ⟨⟩; exact ⟨16, hspells _ (by decide)⟩,
      fun c'' hoverlays' => hoverlays.unique hoverlays' ▸ hc'⟩
  have herror : override { maxPoints := 60 } (fun _ => some "16") = .error .precisionTooHigh := by
    decide +kernel
  rw [herror] at hc''
  cases hc''

end Config

end MetricSeries
