/-!
# Maps kept in key order

Registries, rows, per-system totals and filled buckets are all maps whose keys are listed in
increasing order. `SortedMap κ α` is the list of entries itself, strictly increasing in the key,
so that two maps with the same entries are equal and listing a map needs no sorting.

* `insert` puts a value under a key, replacing the value that was there;
* `get?` looks a key up: `get?_insert_self` and `get?_insert_of_ne` say what it finds after an
  insertion.
-/

namespace MetricSeries

/-- A finite map as its list of entries, strictly increasing in the key. -/
structure SortedMap (κ α : Type) [Ord κ] where
  entries : List (κ × α)
  /-- The keys increase strictly, so that no key occurs twice. -/
  increasing : entries.Pairwise fun a b => compare a.1 b.1 = .lt

namespace SortedMap

variable {κ α β : Type} [Ord κ]

def insertEntry (k : κ) (a : α) : List (κ × α) → List (κ × α)
  | [] => [(k, a)]
  | (k', a') :: rest =>
    match compare k k' with
    | .lt => (k, a) :: (k', a') :: rest
    | .eq => (k, a) :: rest
    | .gt => (k', a') :: insertEntry k a rest

def findEntry (k : κ) : List (κ × α) → Option α
  | [] => none
  | (k', a') :: rest => if compare k k' = .eq then some a' else findEntry k rest

theorem mem_insertEntry {k : κ} {a : α} {e : κ × α} :
    {l : List (κ × α)} → e ∈ insertEntry k a l → e = (k, a) ∨ e ∈ l
  | [], h => by simpa [insertEntry] using h
  | (k', a') :: rest, h => by
    unfold insertEntry at h
    split at h
    · simpa using h
    · rcases List.mem_cons.mp h with h | h
      · exact .inl h
      · exact .inr (List.mem_cons_of_mem _ h)
    · rcases List.mem_cons.mp h with h | h
      · exact .inr (h ▸ List.mem_cons_self)
      · exact (mem_insertEntry h).imp id (List.mem_cons_of_mem _)

theorem increasing_insertEntry [Std.TransOrd κ] (k : κ) (a : α) :
    {l : List (κ × α)} → l.Pairwise (fun x y => compare x.1 y.1 = .lt) →
      (insertEntry k a l).Pairwise fun x y => compare x.1 y.1 = .lt
  | [], _ => by simp [insertEntry]
  | (k', a') :: rest, h => by
    obtain ⟨hhead, hrest⟩ := List.pairwise_cons.mp h
    unfold insertEntry
    split
    · next hlt =>
      refine List.pairwise_cons.mpr ⟨fun e he => ?_, h⟩
      rcases List.mem_cons.mp he with rfl | he
      · exact hlt
      · exact Std.TransCmp.lt_trans hlt (hhead e he)
    · next heq =>
      refine List.pairwise_cons.mpr ⟨fun e he => ?_, hrest⟩
      exact Std.TransCmp.lt_of_eq_of_lt heq (hhead e he)
    · next hgt =>
      refine List.pairwise_cons.mpr ⟨fun e he => ?_, increasing_insertEntry k a hrest⟩
      rcases mem_insertEntry he with rfl | he
      · exact Std.OrientedCmp.lt_of_gt hgt
      · exact hhead e he

def empty : SortedMap κ α := ⟨[], List.Pairwise.nil⟩

instance : Inhabited (SortedMap κ α) := ⟨empty⟩

/-- The map with `a` under the key `k`, in place of any value that was there. -/
def insert [Std.TransOrd κ] (m : SortedMap κ α) (k : κ) (a : α) : SortedMap κ α :=
  ⟨insertEntry k a m.entries, increasing_insertEntry k a m.increasing⟩

def get? (m : SortedMap κ α) (k : κ) : Option α := findEntry k m.entries

def contains (m : SortedMap κ α) (k : κ) : Bool := (m.get? k).isSome

def keys (m : SortedMap κ α) : List κ := m.entries.map (·.1)

/-- The values, in the order of their keys. -/
def values (m : SortedMap κ α) : List α := m.entries.map (·.2)

def toList (m : SortedMap κ α) : List (κ × α) := m.entries

def isEmpty (m : SortedMap κ α) : Bool := m.entries.isEmpty

/-- The map of a list of entries, of which a later one replaces an earlier one of the same key. -/
def ofList [Std.TransOrd κ] (l : List (κ × α)) : SortedMap κ α :=
  l.foldl (fun m e => m.insert e.1 e.2) empty

/-- The same keys, with `f` applied to every value. -/
def map (f : α → β) (m : SortedMap κ α) : SortedMap κ β :=
  ⟨m.entries.map fun e => (e.1, f e.2), List.pairwise_map.mpr m.increasing⟩

instance [DecidableEq κ] [DecidableEq α] : DecidableEq (SortedMap κ α) := fun a b =>
  decidable_of_iff (a.entries = b.entries) <| by
    cases a; cases b; simp

@[ext] theorem ext {a b : SortedMap κ α} (h : a.entries = b.entries) : a = b := by
  cases a; cases b; congr

/-! ### Looking up -/

@[simp] theorem get?_empty (k : κ) : (empty : SortedMap κ α).get? k = none := rfl

theorem findEntry_insertEntry_self [Std.TransOrd κ] (k : κ) (a : α) :
    (l : List (κ × α)) → findEntry k (insertEntry k a l) = some a
  | [] => by simp [insertEntry, findEntry, Std.ReflCmp.compare_self]
  | (k', a') :: rest => by
    unfold insertEntry
    split
    · simp [findEntry, Std.ReflCmp.compare_self]
    · simp [findEntry, Std.ReflCmp.compare_self]
    · next h => simp [findEntry, h, findEntry_insertEntry_self k a rest]

theorem findEntry_insertEntry_of_ne [Std.TransOrd κ] [Std.LawfulEqOrd κ] {k k' : κ}
    (h : k' ≠ k) (a : α) :
    (l : List (κ × α)) → findEntry k' (insertEntry k a l) = findEntry k' l
  | [] => by simp [insertEntry, findEntry, mt Std.LawfulEqCmp.eq_of_compare h]
  | (k₂, a₂) :: rest => by
    have hk : compare k' k ≠ .eq := mt Std.LawfulEqCmp.eq_of_compare h
    unfold insertEntry
    split
    · simp [findEntry, hk]
    · next heq =>
      obtain rfl := Std.LawfulEqCmp.eq_of_compare heq
      simp [findEntry, hk]
    · simp [findEntry, findEntry_insertEntry_of_ne h a rest]

@[simp] theorem get?_insert_self [Std.TransOrd κ] (m : SortedMap κ α) (k : κ) (a : α) :
    (m.insert k a).get? k = some a :=
  findEntry_insertEntry_self k a m.entries

/-- An insertion does not touch the other keys. -/
theorem get?_insert_of_ne [Std.TransOrd κ] [Std.LawfulEqOrd κ] (m : SortedMap κ α) {k k' : κ}
    (h : k' ≠ k) (a : α) : (m.insert k a).get? k' = m.get? k' :=
  findEntry_insertEntry_of_ne h a m.entries

end SortedMap

end MetricSeries
