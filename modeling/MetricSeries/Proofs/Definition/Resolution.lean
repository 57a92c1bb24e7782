import Mathlib.Data.List.Induction
import Mathlib.Data.List.Nodup
import MetricSeries.Membership
import MetricSeries.Proofs.Fallible

/-!
# Which systems a list of identifiers stands for

Resolving a list of identifiers checks many scopes in a fixed order: first the listed identifiers,
then the members of the listed groups, group by group. `checked` is that order written out, and
`resolveSystems_eq` says that resolving is one run of checks over it, followed by taking the first
occurrence of each system.

* `resolveSystems_eq_ok_iff` — resolving succeeds when everything checked is in scope, and yields
  the expansion without repetitions;
* `resolveSystems_eq_error_iff` — otherwise it reports the first identifier out of scope;
* `resolveSystems_systems` — distinct systems in scope resolve to themselves.
-/

namespace MetricSeries

open Fallible

variable {db : Database} {m : Membership} {idents : List Ident} {systems : List SystemId}
  {i : Ident} {s : SystemId} {e : Error}

/-! ### First occurrences -/

theorem firstOccurrences_append_singleton (systems : List SystemId) (s : SystemId) :
    firstOccurrences (systems ++ [s]) =
      if s ∈ firstOccurrences systems then firstOccurrences systems
      else firstOccurrences systems ++ [s] := by
  unfold firstOccurrences
  rw [List.foldl_append]
  rfl

theorem firstOccurrences_eq_eraseDups (systems : List SystemId) :
    firstOccurrences systems = systems.eraseDups := by
  induction systems using List.reverseRecOn with
  | nil => rfl
  | append_singleton systems s ih =>
    rw [firstOccurrences_append_singleton, ih, List.eraseDups_append]
    -- The last system is new, or it is dropped by both.
    by_cases hs : s ∈ systems
    · rw [if_pos (List.mem_eraseDups.mpr hs)]
      simp [List.removeAll, hs]
    · rw [if_neg (mt List.mem_eraseDups.mp hs)]
      simp [List.removeAll, hs, List.eraseDups_cons]

theorem eraseDups_eq_nil_iff : systems.eraseDups = [] ↔ systems = [] := by
  refine ⟨?_, ?_⟩
  · intro h
    refine List.eq_nil_iff_forall_not_mem.mpr fun s hs => ?_
    have hmem := List.mem_eraseDups.mpr hs
    rw [h] at hmem
    exact List.not_mem_nil hmem
  · rintro rfl
    rfl

theorem nodup_firstOccurrences (systems : List SystemId) : (firstOccurrences systems).Nodup := by
  induction systems using List.reverseRecOn with
  | nil => exact List.nodup_nil
  | append_singleton systems s ih =>
    rw [firstOccurrences_append_singleton]
    -- The last system is kept only where it has not been seen before.
    split
    · exact ih
    next hs => exact List.nodup_append.mpr ⟨ih, List.nodup_singleton s, by
        rintro a ha b hb rfl
        exact hs (List.mem_singleton.mp hb ▸ ha)⟩

theorem nodup_eraseDups (systems : List SystemId) : systems.eraseDups.Nodup := by
  rw [← firstOccurrences_eq_eraseDups]
  exact nodup_firstOccurrences systems

theorem firstOccurrences_of_nodup (h : systems.Nodup) : firstOccurrences systems = systems := by
  induction systems using List.reverseRecOn with
  | nil => rfl
  | append_singleton systems s ih =>
    obtain ⟨hsystems, -, hdisjoint⟩ := List.nodup_append.mp h
    rw [firstOccurrences_append_singleton, ih hsystems]
    refine if_neg fun hs => ?_
    exact hdisjoint s hs s (List.mem_singleton_self s) rfl

/-! ### Scopes -/

theorem Ident.ensureScope_eq_ok_iff : i.ensureScope db = .ok () ↔ i.database = db.id := by
  unfold Ident.ensureScope
  by_cases h : i.database = db.id <;> simp [h]

theorem Ident.ensureScope_eq_error_iff :
    i.ensureScope db = .error e ↔ i.database ≠ db.id ∧ e = .scopeMismatch i.text db.id := by
  unfold Ident.ensureScope
  by_cases h : i.database = db.id
  · simp [h]
  · simp [h, eq_comm]

/-- The systems that a list of identifiers stands for, with repetitions. -/
def expansion (m : Membership) (idents : List Ident) : List SystemId :=
  idents.flatMap (·.systems m)

/-- What is checked when a list of identifiers is resolved, in the order of the checks. -/
def checked (m : Membership) (idents : List Ident) : List Ident :=
  idents ++ (expansion m idents).map .system

/-- Expanding identifiers one by one is one run of checks over the systems they stand for. -/
theorem mapM_expand (db : Database) (m : Membership) (idents : List Ident) :
    idents.mapM (·.expand db m) =
      ((expansion m idents).forM fun s => (Ident.system s).ensureScope db) >>= fun _ =>
        .ok (idents.map (·.systems m)) := by
  induction idents with
  | nil => rfl
  | cons i idents ih =>
    -- The checks of the first identifier come before those of the others, and nothing is kept of
    -- them but the lists.
    rw [List.mapM_cons, ih]
    unfold expansion Ident.expand
    rw [List.flatMap_cons, List.forM_eq_forM, List.forM_append]
    simp only [bind_assoc, pure_eq_ok, ok_bind, List.map_cons]

/-- **Resolving is one run of checks.** -/
theorem resolveSystems_eq (db : Database) (m : Membership) (idents : List Ident) :
    resolveSystems db m idents =
      ((checked m idents).forM (·.ensureScope db)) >>= fun _ =>
        .ok (expansion m idents).eraseDups := by
  unfold resolveSystems checked
  rw [mapM_expand]
  simp only [List.forM_eq_forM, List.forM_append, bind_assoc, ok_bind, pure_eq_ok,
    firstOccurrences_eq_eraseDups, List.forM_map]
  rfl

theorem forall_checked_iff :
    (∀ i ∈ checked m idents, i.database = db.id) ↔
      (∀ i ∈ idents, i.database = db.id) ∧
        ∀ i ∈ idents, ∀ s ∈ i.systems m, s.database = db.id := by
  unfold checked expansion
  simp only [List.mem_append, List.mem_map, List.mem_flatMap]
  refine ⟨?_, ?_⟩
  · -- What is checked is the identifiers and, each as a system, the members.
    intro h
    refine ⟨fun i hi => h i (.inl hi), fun i hi s hs => ?_⟩
    exact h (.system s) (.inr ⟨s, ⟨i, hi, hs⟩, rfl⟩)
  · rintro ⟨hidents, hmembers⟩ i (hi | ⟨s, ⟨j, hj, hs⟩, rfl⟩)
    · exact hidents i hi
    · exact hmembers j hj s hs

theorem resolveSystems_eq_ok_iff :
    resolveSystems db m idents = .ok systems ↔
      (∀ i ∈ checked m idents, i.database = db.id) ∧
        systems = (expansion m idents).eraseDups := by
  -- All checks pass when everything that is checked is of the database.
  have hchecks : ((checked m idents).forM (·.ensureScope db)) = .ok () ↔
      ∀ i ∈ checked m idents, i.database = db.id := by
    simp only [forM_eq_ok_iff, Ident.ensureScope_eq_ok_iff]
  rw [resolveSystems_eq, bind_eq_ok_iff, ← hchecks]
  refine ⟨?_, ?_⟩
  · rintro ⟨⟨⟩, hrun, h⟩
    exact ⟨hrun, (Except.ok.inj h).symm⟩
  · rintro ⟨hrun, rfl⟩
    exact ⟨(), hrun, rfl⟩

/-- Resolving reports the first identifier that is out of scope. -/
theorem resolveSystems_eq_error_iff :
    resolveSystems db m idents = .error e ↔
      ∃ before i after, checked m idents = before ++ i :: after ∧
        (∀ j ∈ before, j.database = db.id) ∧ i.database ≠ db.id ∧
          e = .scopeMismatch i.text db.id := by
  rw [resolveSystems_eq, bind_eq_error_iff]
  simp only [forM_eq_error_iff, Ident.ensureScope_eq_ok_iff, Ident.ensureScope_eq_error_iff,
    reduceCtorEq, and_false, exists_false, or_false]

/-- The systems of a resolved list are distinct and in scope. -/
theorem of_resolveSystems (h : resolveSystems db m idents = .ok systems) :
    systems.Nodup ∧ ∀ s ∈ systems, s.database = db.id ∧ ∃ i ∈ idents, s ∈ i.systems m := by
  obtain ⟨hscope, rfl⟩ := resolveSystems_eq_ok_iff.mp h
  refine ⟨nodup_eraseDups _, fun s hs => ?_⟩
  obtain ⟨i, hi, hs⟩ := List.mem_flatMap.mp (List.mem_eraseDups.mp hs)
  exact ⟨(forall_checked_iff.mp hscope).2 i hi s hs, i, hi, hs⟩

/-- **Distinct systems in scope resolve to themselves.** -/
theorem resolveSystems_systems (hnodup : systems.Nodup)
    (hscope : ∀ s ∈ systems, s.database = db.id) :
    resolveSystems db m (systems.map .system) = .ok systems := by
  -- A system stands for itself alone.
  have hexpansion : expansion m (systems.map .system) = systems := by
    unfold expansion
    rw [List.flatMap_map]
    exact List.flatMap_singleton' systems
  refine resolveSystems_eq_ok_iff.mpr ⟨?_, ?_⟩
  · intro i hi
    unfold checked at hi
    rw [hexpansion, List.mem_append, or_self] at hi
    obtain ⟨s, hs, rfl⟩ := List.mem_map.mp hi
    exact hscope s hs
  · rw [hexpansion, ← firstOccurrences_eq_eraseDups, firstOccurrences_of_nodup hnodup]

end MetricSeries
