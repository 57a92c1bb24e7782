import Mathlib.Data.List.Sort
import MetricSeries.Proofs.Definition.Resolution

/-!
# Resolving groups

`Resolves` says what a list of identifiers comes to in a database, without reference to how it is
resolved. There is one constructor for each outcome: a listed identifier is out of scope, or none
is but a member of a listed group, or everything is in scope and the systems come out. Scopes are
checked in two passes, so that a listed identifier is reported before any member, even before the
members of a group that is listed in front of it.

The order of the systems is that of `FirstSeen`: what the identifiers stand for is written out with
all repetitions (`expansion`), and each system stands where it is first seen there. A list of that
kind is determined by what it is taken from (`FirstSeen.unique`), which makes `Resolves` as good as
an equation (`resolveSystems_eq_iff`).
-/

namespace MetricSeries

open Fallible

variable {db : Database} {m : Membership} {idents : List Ident} {expanded systems : List SystemId}
  {s : SystemId} {x : Except Error (List SystemId)}

/-! ### The order of first occurrence -/

/-- **First occurrences**: the systems of a list, in the order in which they are first seen. -/
structure FirstSeen (expanded systems : List SystemId) : Prop where
  mem_iff : ∀ s, s ∈ systems ↔ s ∈ expanded
  order : systems.Pairwise fun s s' => expanded.idxOf s < expanded.idxOf s'

/-- No system is first seen in two places. -/
theorem FirstSeen.nodup (h : FirstSeen expanded systems) : systems.Nodup := by
  refine h.order.imp fun {s s'} hlt heq => ?_
  rw [heq] at hlt
  exact lt_irrefl _ hlt

theorem FirstSeen.unique {systems' : List SystemId} (h : FirstSeen expanded systems)
    (h' : FirstSeen expanded systems') : systems = systems' := by
  have hperm : systems.Perm systems' :=
    (List.perm_ext_iff_of_nodup h.nodup h'.nodup).mpr fun s =>
      (h.mem_iff s).trans (h'.mem_iff s).symm
  -- Two places cannot each be in front of the other.
  refine hperm.eq_of_pairwise (fun s s' _ _ hlt hgt => ?_) h.order h'.order
  exact absurd hlt (Nat.lt_asymm hgt)

theorem firstSeen_firstOccurrences (expanded : List SystemId) :
    FirstSeen expanded (firstOccurrences expanded) := by
  have hmem : ∀ l : List SystemId, ∀ s, s ∈ firstOccurrences l ↔ s ∈ l := by
    intro l s
    rw [firstOccurrences_eq_eraseDups, List.mem_eraseDups]
  refine ⟨hmem expanded, ?_⟩
  induction expanded using List.reverseRecOn with
  | nil => exact List.Pairwise.nil
  | append_singleton expanded s ih =>
    -- A system more at the end leaves the places of those before it.
    have hplaces : (firstOccurrences expanded).Pairwise fun a b =>
        (expanded ++ [s]).idxOf a < (expanded ++ [s]).idxOf b := by
      refine ih.imp_of_mem fun {a b} ha hb hlt => ?_
      rw [List.idxOf_append_of_mem ((hmem expanded a).mp ha),
        List.idxOf_append_of_mem ((hmem expanded b).mp hb)]
      exact hlt
    rw [firstOccurrences_append_singleton]
    split
    · exact hplaces
    next hs =>
      -- A system that was not seen yet is first seen behind all others.
      refine List.pairwise_append.mpr ⟨hplaces, List.pairwise_singleton _ _, fun a ha b hb => ?_⟩
      obtain rfl := List.mem_singleton.mp hb
      have ha' := (hmem expanded a).mp ha
      rw [List.idxOf_append_of_mem ha', List.idxOf_append_of_notMem (mt (hmem expanded b).mpr hs)]
      exact Nat.lt_add_right _ (List.idxOf_lt_length_of_mem ha')

/-! ### Outcomes -/

/-- **What a list of identifiers comes to** in a database. -/
inductive Resolves (db : Database) (m : Membership) (idents : List Ident) :
    Except Error (List SystemId) → Prop where
  /-- A listed identifier is of another database; the first of its kind is reported, whatever the
  members of the groups in front of it are. -/
  | listed {before after : List Ident} {i : Ident} (first : idents = before ++ i :: after)
      (scope : ∀ j ∈ before, j.database = db.id) (foreign : i.database ≠ db.id) :
      Resolves db m idents (.error (.scopeMismatch i.text db.id))
  /-- All listed identifiers are of the database, and some of what they stand for is not; the first
  such member in the order of expansion is reported. -/
  | member {before after : List SystemId} {s : SystemId}
      (scope : ∀ i ∈ idents, i.database = db.id) (first : expansion m idents = before ++ s :: after)
      (members : ∀ s' ∈ before, s'.database = db.id) (foreign : s.database ≠ db.id) :
      Resolves db m idents (.error (.scopeMismatch s.text db.id))
  /-- Everything is of the database, and each system stands where it is first seen. -/
  | systems {systems : List SystemId} (scope : ∀ i ∈ idents, i.database = db.id)
      (members : ∀ s ∈ expansion m idents, s.database = db.id)
      (seen : FirstSeen (expansion m idents) systems) :
      Resolves db m idents (.ok systems)

theorem mem_expansion_iff :
    s ∈ expansion m idents ↔ .system s ∈ idents ∨ ∃ g, .group g ∈ idents ∧ s ∈ m g := by
  unfold expansion
  rw [List.mem_flatMap]
  refine ⟨?_, ?_⟩
  · rintro ⟨i, hi, hs⟩
    -- A system stands for itself, and a group for its members.
    cases i with
    | system s' => exact .inl (List.mem_singleton.mp hs ▸ hi)
    | group g => exact .inr ⟨g, hi, hs⟩
  · rintro (hs | ⟨g, hg, hs⟩)
    · exact ⟨_, hs, List.mem_singleton_self s⟩
    · exact ⟨_, hg, hs⟩

theorem Resolves.resolveSystems_eq (h : Resolves db m idents x) :
    resolveSystems db m idents = x := by
  -- The listed identifiers are checked before the members of groups: an error is in the first or in
  -- the second part of what is checked, with nothing foreign before it.
  cases h with
  | @listed before after i first scope foreign =>
    refine resolveSystems_eq_error_iff.mpr
      ⟨before, i, after ++ (expansion m idents).map .system, ?_, scope, foreign, rfl⟩
    unfold checked
    conv_lhs => arg 1; rw [first]
    rw [List.append_assoc, List.cons_append]
  | @member before after s scope first members foreign =>
    refine resolveSystems_eq_error_iff.mpr
      ⟨idents ++ before.map .system, .system s, after.map .system, ?_, ?_, foreign, rfl⟩
    · unfold checked
      rw [first, List.map_append, List.map_cons, List.append_assoc]
    · rw [List.forall_mem_append, List.forall_mem_map]
      exact ⟨scope, members⟩
  | systems scope members seen =>
    refine resolveSystems_eq_ok_iff.mpr ⟨?_, ?_⟩
    · unfold checked
      rw [List.forall_mem_append, List.forall_mem_map]
      exact ⟨scope, members⟩
    · rw [← firstOccurrences_eq_eraseDups]
      exact seen.unique (firstSeen_firstOccurrences _)

/-- Every list of identifiers comes to something. -/
theorem exists_resolves (db : Database) (m : Membership) (idents : List Ident) :
    ∃ x, Resolves db m idents x := by
  -- The first pass is over the listed identifiers, the second one over what they stand for.
  cases hlisted : idents.forM (·.ensureScope db) with
  | error e =>
    obtain ⟨before, i, after, hfirst, hbefore, hi⟩ := forM_eq_error_iff.mp hlisted
    simp only [Ident.ensureScope_eq_ok_iff] at hbefore
    exact ⟨_, .listed hfirst hbefore (Ident.ensureScope_eq_error_iff.mp hi).1⟩
  | ok _ =>
    have hscope := forM_eq_ok_iff.mp hlisted
    simp only [Ident.ensureScope_eq_ok_iff] at hscope
    cases hmembers : (expansion m idents).forM fun s => (Ident.system s).ensureScope db with
    | error e =>
      obtain ⟨before, s, after, hfirst, hbefore, hs⟩ := forM_eq_error_iff.mp hmembers
      simp only [Ident.ensureScope_eq_ok_iff] at hbefore
      exact ⟨_, .member hscope hfirst hbefore (Ident.ensureScope_eq_error_iff.mp hs).1⟩
    | ok _ =>
      have hexpansion := forM_eq_ok_iff.mp hmembers
      simp only [Ident.ensureScope_eq_ok_iff] at hexpansion
      exact ⟨_, .systems hscope hexpansion (firstSeen_firstOccurrences _)⟩

/-- **A list of identifiers resolves to what it comes to, and to nothing else.** -/
theorem resolveSystems_eq_iff : resolveSystems db m idents = x ↔ Resolves db m idents x := by
  refine ⟨fun h => ?_, Resolves.resolveSystems_eq⟩
  obtain ⟨y, hy⟩ := exists_resolves db m idents
  obtain rfl := h.symm.trans hy.resolveSystems_eq
  exact hy

/-- Resolving fails just when something that is listed, or a member of a group that is listed, is of
another database. -/
theorem exists_resolveSystems_error_iff :
    (∃ e, resolveSystems db m idents = .error e) ↔
      (∃ i ∈ idents, i.database ≠ db.id) ∨
        ∃ g, .group g ∈ idents ∧ ∃ s ∈ m g, s.database ≠ db.id := by
  simp only [resolveSystems_eq_iff]
  refine ⟨?_, ?_⟩
  · rintro ⟨e, h⟩
    cases h with
    | listed first scope foreign => exact .inl ⟨_, by simp [first], foreign⟩
    | @member before after s scope first members foreign =>
      have hs : s ∈ expansion m idents := by simp [first]
      -- It is not a listed system, as those are in scope.
      obtain hlisted | ⟨g, hg, hs⟩ := mem_expansion_iff.mp hs
      · exact absurd (scope _ hlisted) foreign
      · exact .inr ⟨g, hg, s, hs, foreign⟩
  · intro hforeign
    obtain ⟨x, hx⟩ := exists_resolves db m idents
    cases hx with
    | listed first scope foreign => exact ⟨_, .listed first scope foreign⟩
    | member scope first members foreign => exact ⟨_, .member scope first members foreign⟩
    | systems scope members seen =>
      obtain ⟨i, hi, hne⟩ | ⟨g, hg, s, hs, hne⟩ := hforeign
      · exact absurd (scope i hi) hne
      · exact absurd (members s (mem_expansion_iff.mpr (.inr ⟨g, hg, hs⟩))) hne

/-- **Resolving groups.** It fails just when something listed or a member of a listed group is of
another database, and reports the first of the listed that is, or else the first of the members.
Otherwise the listed systems and the members of the listed groups come out, without repetitions and
in the order in which they are first seen, and resolve to themselves. -/
theorem resolveSystems_firstSeen (db : Database) (m : Membership) (idents : List Ident) :
    (∀ x, resolveSystems db m idents = x ↔ Resolves db m idents x) ∧
    ((∃ e, resolveSystems db m idents = .error e) ↔
      (∃ i ∈ idents, i.database ≠ db.id) ∨
        ∃ g, .group g ∈ idents ∧ ∃ s ∈ m g, s.database ≠ db.id) ∧
    ∀ systems, resolveSystems db m idents = .ok systems →
      systems.Nodup ∧
      (∀ s, s ∈ systems ↔ .system s ∈ idents ∨ ∃ g, .group g ∈ idents ∧ s ∈ m g) ∧
      (systems.Pairwise fun s s' =>
        (expansion m idents).idxOf s < (expansion m idents).idxOf s') ∧
      resolveSystems db m (systems.map .system) = .ok systems := by
  refine ⟨fun x => resolveSystems_eq_iff, exists_resolveSystems_error_iff, fun systems h => ?_⟩
  -- Of the three outcomes only the last is a list of systems.
  obtain _ | _ | ⟨scope, members, seen⟩ := resolveSystems_eq_iff.mp h
  refine ⟨seen.nodup, fun s => (seen.mem_iff s).trans mem_expansion_iff, seen.order, ?_⟩
  exact resolveSystems_systems seen.nodup fun s hs => members s ((seen.mem_iff s).mp hs)

/-- Two groups that share a member, and a third one with a member of another database. -/
def overlappingGroups : Membership :=
  Membership.empty
    |>.insert ⟨"ABCD-EFGH", 1⟩ [⟨"ABCD-EFGH", 2⟩, ⟨"ABCD-EFGH", 3⟩]
    |>.insert ⟨"ABCD-EFGH", 2⟩ [⟨"ABCD-EFGH", 3⟩, ⟨"ABCD-EFGH", 4⟩]
    |>.insert ⟨"ABCD-EFGH", 3⟩ [⟨"WXYZ-0000", 5⟩]

/-- A system, both groups that it shares members with, and a group that is not known resolve to
three systems. Behind the group with a foreign member, a foreign identifier is reported first. -/
theorem resolveSystems_firstSeen_overlapping :
    resolveSystems { id := "ABCD-EFGH" } overlappingGroups
        [.system ⟨"ABCD-EFGH", 4⟩, .group ⟨"ABCD-EFGH", 2⟩, .group ⟨"ABCD-EFGH", 9⟩,
          .group ⟨"ABCD-EFGH", 1⟩] =
      .ok [⟨"ABCD-EFGH", 4⟩, ⟨"ABCD-EFGH", 3⟩, ⟨"ABCD-EFGH", 2⟩] ∧
    resolveSystems { id := "ABCD-EFGH" } overlappingGroups
        [.group ⟨"ABCD-EFGH", 3⟩, .group ⟨"WXYZ-0000", 7⟩] =
      .error (.scopeMismatch "WXYZ-0000.GROUP.7" "ABCD-EFGH") ∧
    resolveSystems { id := "ABCD-EFGH" } overlappingGroups
        ([⟨"ABCD-EFGH", 4⟩, ⟨"ABCD-EFGH", 3⟩, ⟨"ABCD-EFGH", 2⟩].map .system) =
      .ok [⟨"ABCD-EFGH", 4⟩, ⟨"ABCD-EFGH", 3⟩, ⟨"ABCD-EFGH", 2⟩] := by
  have hread : resolveSystems { id := "ABCD-EFGH" } overlappingGroups
      [.system ⟨"ABCD-EFGH", 4⟩, .group ⟨"ABCD-EFGH", 2⟩, .group ⟨"ABCD-EFGH", 9⟩,
        .group ⟨"ABCD-EFGH", 1⟩] =
      .ok [⟨"ABCD-EFGH", 4⟩, ⟨"ABCD-EFGH", 3⟩, ⟨"ABCD-EFGH", 2⟩] := by
    decide +kernel
  obtain ⟨houtcome, -, -⟩ := resolveSystems_firstSeen { id := "ABCD-EFGH" } overlappingGroups
    [.group ⟨"ABCD-EFGH", 3⟩, .group ⟨"WXYZ-0000", 7⟩]
  refine ⟨hread, (houtcome _).mpr ?_, ?_⟩
  · have hidents : ([.group ⟨"ABCD-EFGH", 3⟩, .group ⟨"WXYZ-0000", 7⟩] : List Ident) =
        [.group ⟨"ABCD-EFGH", 3⟩] ++ .group ⟨"WXYZ-0000", 7⟩ :: [] := rfl
    exact .listed hidents (by decide) (by decide)
  · exact ((resolveSystems_firstSeen _ _ _).2.2 _ hread).2.2.2

end MetricSeries
