import Mathlib.Data.List.Basic
import MetricSeries.SortedMap

/-!
# Entries of maps and looking them up

As the keys of a map increase strictly, a look-up finds the one entry of its key, so that looking up
and listing say the same (`get?_eq_some_iff`, `mem_keys_iff`). With that, an insertion and a change
of all values are described by what is looked up afterwards (`get?_insert`, `get?_map`). And the map
of the entries of a map is that map (`ofList_toList`).
-/

namespace MetricSeries.SortedMap

variable {κ α β : Type} [Ord κ] {m : SortedMap κ α} {k k' : κ} {a : α}

/-! ### Changing the values -/

theorem findEntry_map (f : α → β) (l : List (κ × α)) :
    findEntry k (l.map fun e => (e.1, f e.2)) = (findEntry k l).map f := by
  induction l with
  | nil => rfl
  | cons e rest ih =>
    rw [List.map_cons]
    unfold findEntry
    by_cases hk : compare k e.1 = .eq
    · rw [if_pos hk, if_pos hk, Option.map_some]
    · rw [if_neg hk, if_neg hk, ih]

theorem get?_map (f : α → β) (m : SortedMap κ α) (k : κ) :
    (m.map f).get? k = (m.get? k).map f :=
  findEntry_map f m.entries

/-! ### Entries -/

variable [Std.LawfulEqOrd κ]

theorem findEntry_eq_some_iff {l : List (κ × α)}
    (h : l.Pairwise fun x y => compare x.1 y.1 = .lt) :
    findEntry k l = some a ↔ (k, a) ∈ l := by
  induction l with
  | nil => simp [findEntry]
  | cons e rest ih =>
    obtain ⟨k', a'⟩ := e
    obtain ⟨hhead, hrest⟩ := List.pairwise_cons.mp h
    unfold findEntry
    by_cases hk : compare k k' = .eq
    · obtain rfl := Std.LawfulEqCmp.eq_of_compare hk
      -- No later entry has the key of the first one.
      have hnot : (k, a) ∉ rest := by
        intro hmem
        have hlt := hhead _ hmem
        rw [hk] at hlt
        cases hlt
      rw [if_pos hk, List.mem_cons, or_iff_left hnot, Option.some.injEq, Prod.mk.injEq,
        and_iff_right rfl, eq_comm]
    · have hne : (k, a) ≠ (k', a') := by
        rintro heq
        obtain ⟨rfl, -⟩ := Prod.mk.inj heq
        exact hk Std.ReflCmp.compare_self
      rw [if_neg hk, ih hrest, List.mem_cons, or_iff_right hne]

/-- **A look-up finds the entry of its key.** -/
theorem get?_eq_some_iff : m.get? k = some a ↔ (k, a) ∈ m.entries :=
  findEntry_eq_some_iff m.increasing

theorem mem_keys_iff : k ∈ m.keys ↔ ∃ a, m.get? k = some a := by
  unfold keys
  simp only [List.mem_map, get?_eq_some_iff, Prod.exists, exists_and_right, exists_eq_right]

theorem get?_eq_none_iff : m.get? k = none ↔ k ∉ m.keys := by
  rw [mem_keys_iff, ← Option.isSome_iff_exists, Option.not_isSome_iff_eq_none]

/-! ### Insertions -/

variable [Std.TransOrd κ]

/-- What is found after an insertion. -/
theorem get?_insert [DecidableEq κ] (m : SortedMap κ α) (k k' : κ) (a : α) :
    (m.insert k a).get? k' = if k' = k then some a else m.get? k' := by
  split
  next h => rw [h, get?_insert_self]
  next h => exact get?_insert_of_ne m h a

theorem mem_keys_insert : k' ∈ (m.insert k a).keys ↔ k' = k ∨ k' ∈ m.keys := by
  classical
  rw [mem_keys_iff, mem_keys_iff, get?_insert]
  by_cases h : k' = k
  · simp [h]
  · simp [h]

/-! ### Maps from their entries -/

omit [Std.LawfulEqOrd κ] in
/-- A key that is greater than all others goes to the end. -/
theorem insertEntry_of_forall_lt {l : List (κ × α)} (h : ∀ e ∈ l, compare e.1 k = .lt) :
    insertEntry k a l = l ++ [(k, a)] := by
  induction l with
  | nil => rfl
  | cons e rest ih =>
    obtain ⟨hhead, hrest⟩ := List.forall_mem_cons.mp h
    have hgt : compare k e.1 = .gt := Std.OrientedCmp.gt_of_lt hhead
    rw [insertEntry, hgt, ih hrest]
    rfl

omit [Std.LawfulEqOrd κ] in
theorem entries_foldl_insert {l : List (κ × α)}
    (h : (m.entries ++ l).Pairwise fun x y => compare x.1 y.1 = .lt) :
    (l.foldl (fun m e => m.insert e.1 e.2) m).entries = m.entries ++ l := by
  induction l generalizing m with
  | nil => exact (List.append_nil _).symm
  | cons e l ih =>
    -- The keys of `l` come in order behind the map's own, so each insertion appends at the end.
    have hlast : ∀ e' ∈ m.entries, compare e'.1 e.1 = .lt := fun e' he' =>
      (List.pairwise_append.mp h).2.2 e' he' e List.mem_cons_self
    have hinsert : (m.insert e.1 e.2).entries = m.entries ++ [e] := insertEntry_of_forall_lt hlast
    rw [List.foldl_cons, ih, hinsert, List.append_assoc, List.singleton_append]
    rw [hinsert, List.append_assoc, List.singleton_append]
    exact h

omit [Std.LawfulEqOrd κ] in
/-- **A map is the map of its entries.** -/
@[simp] theorem ofList_toList (m : SortedMap κ α) : ofList m.toList = m :=
  ext (entries_foldl_insert (l := m.entries) m.increasing)

end MetricSeries.SortedMap
