import Mathlib.Data.List.Nodup
import MetricSeries.Json.Record
import MetricSeries.Proofs.Json.RoundTrip

/-!
# Records that are read back

Settings, templates and fields are written as objects whose keys are all different. A reader of such
a record finds under each name the value that was written under it, and no value under a name that
was not written (`fields?_record`). Lists and maps are read back if their items are
(`asList?_map`, `asEntries?_record`).
-/

namespace MetricSeries.Json

variable {α κ β : Type} {members : List (String × Json)}

/-- Items that are read back one by one are read back together. -/
theorem mapM_map_eq_some {write : α → β} {read : β → Option α} {l : List α}
    (h : ∀ a ∈ l, read (write a) = some a) : (l.map write).mapM read = some l := by
  induction l with
  | nil => rfl
  | cons a l ih =>
    obtain ⟨ha, hl⟩ := List.forall_mem_cons.mp h
    rw [List.map_cons, List.mapM_cons, ha, ih hl]
    rfl

/-! ### Strings -/

@[simp] theorem WellFormed.ofString (s : String) : (ofString s).WellFormed := .string _

@[simp] theorem asString?_ofString (s : String) : asString? (ofString s) = some s := rfl

@[simp] theorem optional?_map_ofString (s : Option String) :
    optional? asString? (s.map ofString) = some s := by
  cases s <;> rfl

/-! ### Natural numbers -/

@[simp] theorem WellFormed.ofNat (n : Nat) : (ofNat n).WellFormed :=
  .number (Numeral.wellFormed_ofNat n)

/-- A natural number below the bound is read back. -/
theorem asNatBelow?_ofNat {n bound : Nat} (h : n < bound) :
    asNatBelow? bound (ofNat n) = some n := by
  unfold asNatBelow? Json.ofNat
  dsimp only
  rw [Numeral.int?_ofNat]
  exact if_pos h

/-! ### Records -/

theorem WellFormed.record (h : ∀ m ∈ members, m.2.WellFormed) : (record members).WellFormed :=
  .object (List.forall_mem_map.mpr h)

theorem readableKeys?_map (members : List (String × Json)) :
    readableKeys? (members.map fun m => (some m.1, m.2)) = some members :=
  mapM_map_eq_some fun _ _ => rfl

/-- Where no key is repeated, a field is what is found under its name. -/
theorem field?_of_nodup (h : (members.map Prod.fst).Nodup) (name : String) :
    field? members name = some (members.lookup name) := by
  induction members with
  | nil => rfl
  | cons m members ih =>
    obtain ⟨key, v⟩ := m
    rw [List.map_cons, List.nodup_cons] at h
    obtain ⟨hnot, hnodup⟩ := h
    by_cases hkey : key = name
    · subst hkey
      -- No later member has the key of the first one.
      have hlater : members.filter (fun m => m.1 = key) = [] := by
        refine List.filter_eq_nil_iff.mpr fun m hm => ?_
        rw [decide_eq_true_eq]
        exact fun hm' => hnot (List.mem_map.mpr ⟨m, hm, hm'⟩)
      unfold field?
      rw [List.filter_cons_of_pos (by simp), hlater, List.lookup_cons_self]
    · have hname : (name == key) = false := beq_eq_false_iff_ne.mpr (Ne.symm hkey)
      have hrest := ih hnodup
      unfold field? at hrest ⊢
      rw [List.filter_cons_of_neg (by simpa using hkey), hrest, List.lookup_cons, hname]

/-- **A record is read field by field**: every name has the value that is written under it. -/
theorem fields?_record (h : (members.map Prod.fst).Nodup) (names : List String) :
    (record members).fields? names = some (names.map fun name => members.lookup name) := by
  unfold record fields?
  dsimp only
  rw [readableKeys?_map, Option.bind_eq_bind, Option.bind_some, funext (field?_of_nodup h)]
  exact List.mapM_pure ..

/-! ### Lists and maps -/

theorem asList?_map {write : α → Json} {read : Json → Option α} {l : List α}
    (h : ∀ a ∈ l, read (write a) = some a) : asList? read (.array (l.map write)) = some l :=
  mapM_map_eq_some h

theorem asEntries?_record {key : κ → String} {key? : String → Option κ} {write : α → Json}
    {read : Json → Option α} {entries : List (κ × α)}
    (hkey : ∀ e ∈ entries, key? (key e.1) = some e.1)
    (hvalue : ∀ e ∈ entries, read (write e.2) = some e.2) :
    asEntries? key? read (record (entries.map fun e => (key e.1, write e.2))) = some entries := by
  unfold record asEntries?
  dsimp only
  rw [readableKeys?_map, Option.bind_eq_bind, Option.bind_some]
  refine mapM_map_eq_some fun e he => ?_
  rw [hkey e he, hvalue e he]
  rfl

end MetricSeries.Json
