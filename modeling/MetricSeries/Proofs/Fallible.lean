import Mathlib.Data.List.Forall2

/-!
# Runs of fallible steps

Reading a definition, checking scopes, fetching and accumulating rows are all runs over a list in
which each step may fail, and where the first failure is the failure of the run. The laws below
say of each kind of run when it succeeds and which step a failure comes from; proofs about the
library take runs apart by them and do not open `Except` otherwise.

* `bind_eq_ok_iff`, `bind_eq_error_iff` — two steps, one after the other;
* `mapM_eq_ok_iff`, `mapM_eq_error_iff` — one result for each element, and
  `mapM_eq_ok_of_forall₂` for two runs of which one follows the other;
* `forM_eq_ok_iff`, `forM_eq_error_iff` — one check for each element;
* `exists_of_foldlM_eq_error` — steps that hand a state on.
-/

namespace MetricSeries.Fallible

variable {α β ε : Type}

/-! ### Single steps -/

theorem bind_eq_ok_iff {x : Except ε α} {f : α → Except ε β} {b : β} :
    (x >>= f) = .ok b ↔ ∃ a, x = .ok a ∧ f a = .ok b := by
  cases x with
  | error e => simp [bind, Except.bind]
  | ok a => simp [bind, Except.bind]

theorem bind_eq_error_iff {x : Except ε α} {f : α → Except ε β} {e : ε} :
    (x >>= f) = .error e ↔ x = .error e ∨ ∃ a, x = .ok a ∧ f a = .error e := by
  cases x with
  | error e' => simp [bind, Except.bind]
  | ok a => simp [bind, Except.bind]

theorem exists_bind_eq_ok_iff {x : Except ε α} {f : α → Except ε β} :
    (∃ b, (x >>= f) = .ok b) ↔ ∃ a, x = .ok a ∧ ∃ b, f a = .ok b := by
  simp only [bind_eq_ok_iff]
  exact ⟨fun ⟨b, a, ha, hb⟩ => ⟨a, ha, b, hb⟩, fun ⟨a, ha, b, hb⟩ => ⟨b, a, ha, hb⟩⟩

@[simp] theorem ok_bind (a : α) (f : α → Except ε β) : (Except.ok a >>= f) = f a := rfl

@[simp] theorem error_bind (e : ε) (f : α → Except ε β) :
    ((Except.error e : Except ε α) >>= f) = .error e := rfl

@[simp] theorem pure_eq_ok (a : α) : (pure a : Except ε α) = .ok a := rfl

/-- A result is a value or an error, and not both. -/
theorem exists_error_iff {x : Except ε α} : (∃ e, x = .error e) ↔ ¬ ∃ a, x = .ok a := by
  cases x with
  | error e => simp
  | ok a => simp

theorem isOk_iff {x : Except ε α} : x.isOk = true ↔ ∃ a, x = .ok a := by
  cases x with
  | error e => simp [Except.isOk, Except.toBool]
  | ok a => simp [Except.isOk, Except.toBool]

/-! ### One result for each element -/

theorem mapM_eq_ok_iff {f : α → Except ε β} {l : List α} {bs : List β} :
    l.mapM f = .ok bs ↔ List.Forall₂ (fun a b => f a = .ok b) l bs := by
  -- By induction on the list, one element being one more pair of related ones.
  induction l generalizing bs with
  | nil => cases bs <;> simp
  | cons a l ih =>
    rw [List.mapM_cons, bind_eq_ok_iff]
    refine ⟨?_, ?_⟩
    · rintro ⟨b, hb, h⟩
      obtain ⟨rest, hrest, h⟩ := bind_eq_ok_iff.mp h
      obtain rfl := Except.ok.inj h
      exact .cons hb (ih.mp hrest)
    · rintro (_ | ⟨hb, hrest⟩)
      refine ⟨_, hb, ?_⟩
      rw [ih.mpr hrest]
      rfl

/-- A run fails with the failure of the first element that has one. -/
theorem mapM_eq_error_iff {f : α → Except ε β} {l : List α} {e : ε} :
    l.mapM f = .error e ↔ ∃ before a after bs, l = before ++ a :: after ∧
      List.Forall₂ (fun a b => f a = .ok b) before bs ∧ f a = .error e := by
  induction l with
  | nil => simp
  | cons a l ih =>
    -- Either the first element fails, or it succeeds and joins those before the failing one.
    rw [List.mapM_cons, bind_eq_error_iff]
    refine ⟨?_, ?_⟩
    · rintro (h | ⟨b, hb, h⟩)
      · exact ⟨[], a, l, [], rfl, .nil, h⟩
      · obtain h | ⟨rest, -, h⟩ := bind_eq_error_iff.mp h
        · obtain ⟨before, x, after, bs, rfl, hbs, hx⟩ := ih.mp h
          exact ⟨a :: before, x, after, b :: bs, rfl, .cons hb hbs, hx⟩
        · cases h
    · rintro ⟨_ | ⟨y, before⟩, x, after, bs, hl, hbs, hx⟩
      · obtain ⟨rfl, rfl⟩ := List.cons.inj hl
        exact .inl hx
      · obtain ⟨rfl, rfl⟩ := List.cons.inj hl
        cases hbs with
        | cons hb hbs =>
          refine .inr ⟨_, hb, bind_eq_error_iff.mpr (.inl ?_)⟩
          exact ih.mpr ⟨before, x, after, _, rfl, hbs, hx⟩

/-- A run succeeds exactly when each of its elements does. -/
theorem exists_mapM_iff {f : α → Except ε β} {l : List α} :
    (∃ bs, l.mapM f = .ok bs) ↔ ∀ a ∈ l, ∃ b, f a = .ok b := by
  induction l with
  | nil => simp
  | cons a l ih =>
    rw [List.mapM_cons, exists_bind_eq_ok_iff, List.forall_mem_cons, ← ih]
    refine ⟨?_, ?_⟩
    · rintro ⟨b, hb, h⟩
      obtain ⟨bs, hbs, -⟩ := exists_bind_eq_ok_iff.mp h
      exact ⟨⟨b, hb⟩, ⟨bs, hbs⟩⟩
    · rintro ⟨⟨b, hb⟩, ⟨bs, hbs⟩⟩
      exact ⟨b, hb, exists_bind_eq_ok_iff.mpr ⟨bs, hbs, _, rfl⟩⟩

/-- **Runs in step.** Where every step of a run that succeeds has a counterpart in another run, the
other run succeeds as well, and the results are counterparts of each other. -/
theorem mapM_eq_ok_of_forall₂ {α' β' : Type} {f : α → Except ε β} {f' : α' → Except ε β'}
    {R : α → α' → Prop} {S : β → β' → Prop} {l : List α} {l' : List α'} {bs : List β}
    (step : ∀ a a' b, R a a' → f a = .ok b → ∃ b', f' a' = .ok b' ∧ S b b')
    (h : List.Forall₂ R l l') (hl : l.mapM f = .ok bs) :
    ∃ bs', l'.mapM f' = .ok bs' ∧ List.Forall₂ S bs bs' := by
  rw [mapM_eq_ok_iff] at hl
  -- By induction on the relation between the lists: it pairs the elements, and the step carries
  -- each result over.
  induction h generalizing bs with
  | nil =>
    cases hl
    exact ⟨[], rfl, .nil⟩
  | cons hR h ih =>
    obtain _ | ⟨hb, hrest⟩ := hl
    obtain ⟨b', hb', hS⟩ := step _ _ _ hR hb
    obtain ⟨bs', hbs', hrest'⟩ := ih hrest
    refine ⟨b' :: bs', ?_, .cons hS hrest'⟩
    rw [mapM_eq_ok_iff] at hbs' ⊢
    exact .cons hb' hbs'

/-! ### One check for each element -/

theorem forM_eq_ok_iff {f : α → Except ε Unit} {l : List α} :
    l.forM f = .ok () ↔ ∀ a ∈ l, f a = .ok () := by
  induction l with
  | nil => simp
  | cons a l ih =>
    rw [List.forM_eq_forM, List.forM_cons, bind_eq_ok_iff]
    rw [List.forM_eq_forM] at ih
    simp only [List.forall_mem_cons, ← ih]
    exact ⟨fun ⟨_, ha, h⟩ => ⟨ha, h⟩, fun ⟨ha, h⟩ => ⟨(), ha, h⟩⟩

/-- A run of checks fails with the failure of the first element that has one. -/
theorem forM_eq_error_iff {f : α → Except ε Unit} {l : List α} {e : ε} :
    l.forM f = .error e ↔ ∃ before a after, l = before ++ a :: after ∧
      (∀ b ∈ before, f b = .ok ()) ∧ f a = .error e := by
  induction l with
  | nil => simp
  | cons a l ih =>
    -- As for `mapM`, but a check that passes leaves nothing behind.
    rw [List.forM_eq_forM, List.forM_cons, bind_eq_error_iff]
    rw [List.forM_eq_forM] at ih
    refine ⟨?_, ?_⟩
    · rintro (h | ⟨⟨⟩, ha, h⟩)
      · exact ⟨[], a, l, rfl, by simp, h⟩
      · obtain ⟨before, x, after, rfl, hbefore, hx⟩ := ih.mp h
        exact ⟨a :: before, x, after, rfl, List.forall_mem_cons.mpr ⟨ha, hbefore⟩, hx⟩
    · rintro ⟨_ | ⟨y, before⟩, x, after, hl, hbefore, hx⟩
      · obtain ⟨rfl, rfl⟩ := List.cons.inj hl
        exact .inl hx
      · obtain ⟨rfl, rfl⟩ := List.cons.inj hl
        obtain ⟨ha, hbefore⟩ := List.forall_mem_cons.mp hbefore
        exact .inr ⟨(), ha, ih.mpr ⟨before, x, after, rfl, hbefore, hx⟩⟩

/-! ### Steps that hand a state on -/

/-- The failure of a run is the failure of one of its elements, at some state. -/
theorem exists_of_foldlM_eq_error {f : β → α → Except ε β} {l : List α} {b : β} {e : ε}
    (h : l.foldlM f b = .error e) : ∃ b', ∃ a ∈ l, f b' a = .error e := by
  induction l generalizing b with
  | nil => cases h
  | cons a l ih =>
    rw [List.foldlM_cons] at h
    -- Either the head is where it fails, or the head passes and the tail fails from there.
    rcases bind_eq_error_iff.mp h with ha | ⟨b', -, hrest⟩
    · exact ⟨b, a, List.mem_cons_self, ha⟩
    · obtain ⟨b'', a', ha', hfails⟩ := ih hrest
      exact ⟨b'', a', List.mem_cons_of_mem a ha', hfails⟩

end MetricSeries.Fallible
