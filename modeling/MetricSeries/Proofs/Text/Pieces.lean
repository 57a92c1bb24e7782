import Mathlib.Data.List.DropRight
import Mathlib.Data.List.Forall2
import MetricSeries.Text.Split

/-!
# Trimmed pieces of a text

The separators of a text are found before its pieces are trimmed, so a piece that is written back
must not hold the separator, and must lose nothing to trimming. `Trimmed` is the second condition.

* `trimmed_trim` — trimming yields a trimmed text, and `Trimmed.trim_eq` says that it leaves such a
  text alone;
* `parts_pieces` — the parts of a text are trimmed and free of the separator;
* `parts_joined` — **cutting undoes joining**: pieces of that kind, at least one of them, are the
  parts of what they are joined to;
* `parts_trim` — blank space around a text does not change its parts;
* `trimmed_joined` — joining trimmed pieces that are not empty yields a trimmed text.

What it is to cut a text can be said by joining alone (`Cut`), without an order in which the text is
gone through. The parts of a text are its one cut (`cut_iff`).
-/

namespace MetricSeries.Text

/-! ### Trimming -/

/-- **A trimmed text** has no blank character at either end. -/
structure Trimmed (cs : List Char) : Prop where
  head : ∀ c ∈ cs.head?, isBlank c = false
  last : ∀ c ∈ cs.getLast?, isBlank c = false

variable {cs a b : List Char} {sep : Char} {pieces : List (List Char)}

theorem trimmed_of_forall (h : ∀ c ∈ cs, isBlank c = false) : Trimmed cs where
  head c hc := h c (List.mem_of_mem_head? hc)
  last c hc := h c (List.mem_of_mem_getLast? hc)

theorem trimStart_eq_self (h : Trimmed cs) : trimStart cs = cs := by
  cases cs with
  | nil => rfl
  | cons c cs =>
    have hc : isBlank c = false := h.head c rfl
    exact List.dropWhile_cons_of_neg (by simp [hc])

theorem trimEnd_eq_self (h : ∀ c ∈ cs.getLast?, isBlank c = false) : trimEnd cs = cs := by
  refine List.rdropWhile_eq_self_iff.mpr fun hne => ?_
  rw [h _ (List.getLast?_eq_some_getLast hne)]
  exact Bool.false_ne_true

theorem Trimmed.trim_eq (h : Trimmed cs) : trim cs = cs := by
  unfold trim
  rw [trimStart_eq_self h, trimEnd_eq_self h.last]

theorem exists_trimEnd_append (cs : List Char) : ∃ rest, trimEnd cs ++ rest = cs :=
  List.rdropWhile_prefix isBlank cs

theorem trimmed_trim (cs : List Char) : Trimmed (trim cs) where
  head c hc := by
    -- What is left starts where the text without its leading blank characters starts.
    obtain ⟨rest, hrest⟩ := exists_trimEnd_append (trimStart cs)
    have hstart : c ∈ (trimStart cs).head? := by
      rw [← hrest, List.head?_append]
      exact Option.mem_def.mpr (by rw [show (trimEnd (trimStart cs)).head? = some c from hc]; rfl)
    have hnot := List.head?_dropWhile_not isBlank cs
    rw [show (List.dropWhile isBlank cs).head? = some c from hstart] at hnot
    simpa using hnot
  last c hc := by
    have hne : trim cs ≠ [] := by
      intro hnil
      rw [hnil] at hc
      simp at hc
    have hlast := List.rdropWhile_last_not isBlank (trimStart cs) hne
    rw [List.getLast?_eq_some_getLast hne] at hc
    obtain rfl := Option.some.inj hc
    exact eq_false_of_ne_true hlast

theorem trimEnd_append_blank (hblank : ∀ c ∈ b, isBlank c = true) :
    trimEnd (a ++ b) = trimEnd a := by
  unfold trimEnd
  rw [List.reverse_append, List.dropWhile_append_of_pos (by simpa using hblank)]

/-- Blank characters behind a text that ends in none are taken off again. -/
theorem trimEnd_append (h : ∀ c ∈ a.getLast?, isBlank c = false)
    (hblank : ∀ c ∈ b, isBlank c = true) : trimEnd (a ++ b) = a := by
  rw [trimEnd_append_blank hblank, trimEnd_eq_self h]

/-- What is taken off the end of a text is blank. -/
theorem exists_blank_trimEnd (cs : List Char) :
    ∃ blank, cs = trimEnd cs ++ blank ∧ ∀ c ∈ blank, isBlank c = true :=
  ⟨cs.rtakeWhile isBlank, List.rdropWhile_append_rtakeWhile.symm,
    fun _ hc => List.mem_rtakeWhile_imp hc⟩

/-- **What is taken off a text** at either end is blank. -/
theorem exists_blank_trim (cs : List Char) :
    ∃ lead tail, cs = lead ++ (trim cs ++ tail) ∧ (∀ c ∈ lead, isBlank c = true) ∧
      ∀ c ∈ tail, isBlank c = true := by
  obtain ⟨tail, hstart, htail⟩ := exists_blank_trimEnd (trimStart cs)
  refine ⟨cs.takeWhile isBlank, tail, ?_, fun c hc => List.mem_takeWhile_imp hc, htail⟩
  calc cs = cs.takeWhile isBlank ++ trimStart cs := List.takeWhile_append_dropWhile.symm
    _ = cs.takeWhile isBlank ++ (trim cs ++ tail) := congrArg _ hstart

/-- Blank space at the end of a text does not count. -/
theorem trim_append_blank (hblank : ∀ c ∈ b, isBlank c = true) : trim (a ++ b) = trim a := by
  unfold trim trimStart
  rw [List.dropWhile_append]
  split
  next hempty =>
    -- The text is blank, so nothing is left of it with and without more blank space.
    rw [List.isEmpty_iff.mp hempty, List.dropWhile_eq_nil_iff.mpr hblank]
  next => exact trimEnd_append_blank hblank

/-- Blank space at the start of a text does not count. -/
theorem trim_blank_append (hblank : ∀ c ∈ b, isBlank c = true) : trim (b ++ a) = trim a := by
  unfold trim trimStart
  rw [List.dropWhile_append_of_pos hblank]

theorem trim_trimEnd (cs : List Char) : trim (trimEnd cs) = trim cs := by
  obtain ⟨blank, hcs, hblank⟩ := exists_blank_trimEnd cs
  calc trim (trimEnd cs) = trim (trimEnd cs ++ blank) := (trim_append_blank hblank).symm
    _ = trim cs := congrArg trim hcs.symm

theorem trim_trimStart (cs : List Char) : trim (trimStart cs) = trim cs :=
  congrArg trimEnd (List.dropWhile_idempotent isBlank cs)

/-- A trimmed text at the end of another one stays whole. -/
theorem trim_append_of_trimmed (hb : Trimmed b) (hne : b ≠ []) :
    trim (a ++ b) = trimStart a ++ b := by
  -- Where the front is blank as a whole, the start of the other text stops the trimming.
  have hstart : trimStart (a ++ b) = trimStart a ++ b := by
    unfold trimStart
    rw [List.dropWhile_append]
    split
    next hempty =>
      rw [List.isEmpty_iff.mp hempty, List.nil_append]
      exact trimStart_eq_self hb
    next => rfl
  unfold trim
  rw [hstart]
  refine trimEnd_eq_self fun c hc => ?_
  rw [List.getLast?_append_of_ne_nil _ hne] at hc
  exact hb.last c hc

@[simp] theorem toList_trimmed (text : String) : (trimmed text).toList = trim text.toList :=
  String.toList_ofList

theorem trimmed_trimmed (text : String) : trimmed (trimmed text) = trimmed text := by
  unfold trimmed
  rw [String.toList_ofList, (trimmed_trim _).trim_eq]

theorem mem_of_mem_trim {c : Char} (h : c ∈ trim cs) : c ∈ cs := by
  obtain ⟨rest, hrest⟩ := exists_trimEnd_append (trimStart cs)
  have hstart : c ∈ trimStart cs := hrest ▸ List.mem_append_left rest h
  exact List.dropWhile_subset isBlank hstart

/-- A text with trimmed texts at both of its ends is trimmed. -/
theorem Trimmed.append (ha : Trimmed a) (hb : Trimmed b) (hane : a ≠ []) (hbne : b ≠ [])
    (mid : List Char) : Trimmed (a ++ (mid ++ b)) where
  head c hc := by
    rw [List.head?_append_of_ne_nil _ hane] at hc
    exact ha.head c hc
  last c hc := by
    rw [List.getLast?_append_of_ne_nil _ (List.append_ne_nil_of_right_ne_nil _ hbne),
      List.getLast?_append_of_ne_nil _ hbne] at hc
    exact hb.last c hc

/-- A text that is not blank is not empty. -/
theorem toList_ne_nil {text : String} (h : allBlank text = false) : text.toList ≠ [] := by
  intro hnil
  unfold allBlank at h
  rw [hnil] at h
  cases h

/-! ### Joining -/

theorem joined_cons (h : pieces ≠ []) :
    joined sep (a :: pieces) = a ++ ([sep] ++ joined sep pieces) := by
  unfold joined
  rw [List.intercalate_cons_of_ne_nil h, List.append_assoc]

@[simp] theorem joined_singleton (sep : Char) (a : List Char) : joined sep [a] = a :=
  List.intercalate_singleton

/-- The characters of a joined text are those of its pieces, and the separator where there are at
least two. -/
theorem mem_joined {c : Char} (h : c ∈ joined sep pieces) :
    c = sep ∨ ∃ piece ∈ pieces, c ∈ piece := by
  -- By induction on the pieces; the last of them is followed by no separator.
  induction pieces with
  | nil => exact absurd h List.not_mem_nil
  | cons a pieces ih =>
    by_cases hnil : pieces = []
    · subst hnil
      rw [joined_singleton] at h
      exact .inr ⟨a, List.mem_cons_self, h⟩
    · rw [joined_cons hnil] at h
      simp only [List.mem_append, List.mem_singleton] at h
      rcases h with h | h | h
      · exact .inr ⟨a, List.mem_cons_self, h⟩
      · exact .inl h
      · exact (ih h).imp_right fun ⟨piece, hpiece, hc⟩ =>
          ⟨piece, List.mem_cons_of_mem _ hpiece, hc⟩

theorem mem_joined_of_mem {c : Char} {piece : List Char} (hpiece : piece ∈ pieces)
    (hc : c ∈ piece) : c ∈ joined sep pieces := by
  -- By induction on the pieces, as the text is joined from the front.
  induction pieces with
  | nil => exact absurd hpiece List.not_mem_nil
  | cons a pieces ih =>
    by_cases hnil : pieces = []
    · subst hnil
      obtain rfl := List.mem_singleton.mp hpiece
      rwa [joined_singleton]
    · rw [joined_cons hnil]
      rcases List.mem_cons.mp hpiece with rfl | hpiece
      · exact List.mem_append_left _ hc
      · exact List.mem_append_right _ (List.mem_append_right _ (ih hpiece))

/-- Trimmed pieces that are not empty are joined to a text of the same kind. -/
theorem trimmed_joined (h : ∀ piece ∈ pieces, Trimmed piece ∧ piece ≠ []) (hne : pieces ≠ []) :
    Trimmed (joined sep pieces) ∧ joined sep pieces ≠ [] := by
  induction pieces with
  | nil => exact absurd rfl hne
  | cons a pieces ih =>
    -- The ends of the text are the start of the first piece and the end of what is joined of the
    -- others.
    obtain ⟨⟨ha, hane⟩, hrest⟩ := List.forall_mem_cons.mp h
    by_cases hnil : pieces = []
    · subst hnil
      rw [joined_singleton]
      exact ⟨ha, hane⟩
    · obtain ⟨htrim, hrestne⟩ := ih hrest hnil
      rw [joined_cons hnil]
      exact ⟨ha.append htrim hane hrestne [sep], List.append_ne_nil_of_left_ne_nil hane _⟩

/-! ### Cutting -/

theorem not_mem_of_mem_splitOn {piece : List Char} (h : piece ∈ cs.splitOn sep) :
    sep ∉ piece := by
  induction cs generalizing piece with
  | nil =>
    obtain rfl := List.mem_singleton.mp h
    exact List.not_mem_nil
  | cons c cs ih =>
    rw [List.splitOn_cons_eq_if_modifyHead] at h
    by_cases hc : c = sep
    · -- A separator starts a new piece in front of the others.
      rw [if_pos (by simpa using hc)] at h
      rcases List.mem_cons.mp h with rfl | h
      · exact List.not_mem_nil
      · exact ih h
    · rw [if_neg (by simpa using hc)] at h
      -- The character goes to the front of the first piece; the others stay.
      cases hsplit : cs.splitOn sep with
      | nil => exact absurd hsplit (List.splitOn_ne_nil sep cs)
      | cons first rest =>
        rw [hsplit] at h ih
        rcases List.mem_cons.mp h with rfl | h
        · have hfirst := ih List.mem_cons_self
          rw [List.mem_cons, not_or]
          exact ⟨fun heq => hc heq.symm, hfirst⟩
        · exact ih (List.mem_cons_of_mem _ h)

/-- The first piece of a text is what stands in front of the first separator. -/
theorem headD_splitOn (sep : Char) (cs : List Char) :
    (cs.splitOn sep).headD [] = cs.takeWhile fun c => !c == sep := by
  -- By induction on the text: a character goes to the first piece, unless it is the separator,
  -- which ends that piece.
  induction cs with
  | nil => rfl
  | cons c cs ih =>
    rw [List.splitOn_cons_eq_if_modifyHead, List.takeWhile_cons]
    by_cases hc : (c == sep) = true
    · rw [if_pos hc, hc]
      rfl
    · rw [if_neg hc, eq_false_of_ne_true hc, ← ih]
      cases hsplit : cs.splitOn sep with
      | nil => exact absurd hsplit (List.splitOn_ne_nil sep cs)
      | cons first rest => rfl

/-- A separator between two texts cuts neither of them. -/
theorem parts_append_cons (sep : Char) (a b : List Char) :
    parts sep (a ++ sep :: b) = parts sep a ++ parts sep b := by
  have hsplit : (a ++ sep :: b).splitOn sep = a.splitOn sep ++ b.splitOn sep :=
    List.splitOnP_append_cons a b (beq_self_eq_true sep)
  unfold parts
  rw [hsplit, List.map_append]

theorem parts_of_not_mem (h : sep ∉ cs) : parts sep cs = [trim cs] := by
  have hwhole : cs.splitOn sep = [cs] :=
    List.splitOnP_eq_singleton fun c hc => beq_eq_false_iff_ne.mpr fun heq => h (heq ▸ hc)
  unfold parts
  rw [hwhole, List.map_singleton]

/-- Blank space at the start of a text belongs to the first part, and is trimmed off there. -/
theorem parts_blank_append (hsep : isBlank sep = false) (hblank : ∀ c ∈ b, isBlank c = true) :
    parts sep (b ++ cs) = parts sep cs := by
  have hb : sep ∉ b := fun hmem => Bool.false_ne_true (hsep.symm.trans (hblank sep hmem))
  by_cases hmem : sep ∈ cs
  · obtain ⟨first, rest, rfl, hfirst⟩ := List.eq_append_cons_of_mem hmem
    rw [← List.append_assoc, parts_append_cons, parts_append_cons, parts_of_not_mem hfirst,
      parts_of_not_mem (by simp [hb, hfirst]), trim_blank_append hblank]
  · rw [parts_of_not_mem hmem, parts_of_not_mem (by simp [hb, hmem]), trim_blank_append hblank]

/-- Blank space at the end of a text belongs to the last part. -/
theorem parts_append_blank (hsep : isBlank sep = false) (hblank : ∀ c ∈ b, isBlank c = true) :
    parts sep (cs ++ b) = parts sep cs := by
  have hb : sep ∉ b := fun hmem => Bool.false_ne_true (hsep.symm.trans (hblank sep hmem))
  -- The induction takes the first part off until no separator is left.
  induction hlength : cs.length using Nat.strong_induction_on generalizing cs with
  | _ n ih =>
    by_cases hmem : sep ∈ cs
    · obtain ⟨first, rest, rfl, -⟩ := List.eq_append_cons_of_mem hmem
      have hshorter : rest.length < n := by
        rw [← hlength, List.length_append, List.length_cons]
        omega
      rw [List.append_assoc, List.cons_append, parts_append_cons, parts_append_cons,
        ih _ hshorter rfl]
    · rw [parts_of_not_mem hmem, parts_of_not_mem (by simp [hb, hmem]), trim_append_blank hblank]

/-- A text has the same parts once it is trimmed. -/
theorem parts_trim (hsep : isBlank sep = false) (cs : List Char) :
    parts sep (trim cs) = parts sep cs := by
  obtain ⟨lead, tail, hcs, hlead, htail⟩ := exists_blank_trim cs
  calc parts sep (trim cs) = parts sep (trim cs ++ tail) := (parts_append_blank hsep htail).symm
    _ = parts sep (lead ++ (trim cs ++ tail)) := (parts_blank_append hsep hlead).symm
    _ = parts sep cs := congrArg (parts sep) hcs.symm

theorem parts_ne_nil (sep : Char) (cs : List Char) : parts sep cs ≠ [] := by
  intro h
  exact List.splitOn_ne_nil sep cs (List.map_eq_nil_iff.mp h)

/-- The parts of a text are trimmed, and free of the separator. -/
theorem parts_pieces {piece : List Char} (h : piece ∈ parts sep cs) :
    Trimmed piece ∧ sep ∉ piece := by
  obtain ⟨raw, hraw, rfl⟩ := List.mem_map.mp h
  exact ⟨trimmed_trim raw, fun hsep => not_mem_of_mem_splitOn hraw (mem_of_mem_trim hsep)⟩

theorem mem_of_mem_parts {c : Char} {piece : List Char} (h : piece ∈ parts sep cs)
    (hc : c ∈ piece) : c ∈ cs := by
  obtain ⟨raw, hraw, rfl⟩ := List.mem_map.mp h
  -- The pieces, joined again, are the text.
  have hjoined : joined sep (cs.splitOn sep) = cs := List.intercalate_splitOn sep
  rw [← hjoined]
  exact mem_joined_of_mem hraw (mem_of_mem_trim hc)

/-- **Cutting undoes joining** where the pieces are trimmed and free of the separator. -/
theorem parts_joined (h : ∀ piece ∈ pieces, Trimmed piece ∧ sep ∉ piece) (hne : pieces ≠ []) :
    parts sep (joined sep pieces) = pieces := by
  unfold parts joined
  rw [List.splitOn_intercalate sep (fun piece hpiece => (h piece hpiece).2) hne]
  calc
    pieces.map trim = pieces.map id := List.map_congr_left fun piece hpiece =>
      (h piece hpiece).1.trim_eq
    _ = pieces := List.map_id pieces

/-! ### The cut of a text -/

/-- **What is left of a text** when the blank characters at both of its ends are taken off. -/
structure Trims (cs piece : List Char) : Prop where
  blanks : ∃ lead tail, cs = lead ++ (piece ++ tail) ∧ (∀ c ∈ lead, isBlank c = true) ∧
    ∀ c ∈ tail, isBlank c = true
  trimmed : Trimmed piece

/-- **The cut of a text at a separator.** The text is raw pieces, at least one of them and none with
the separator in it, joined by the separator. Its pieces are what is left of the raw ones. -/
inductive Cut (sep : Char) : List Char → List (List Char) → Prop where
  | intro {raw pieces : List (List Char)} (ne_nil : raw ≠ []) (free : ∀ piece ∈ raw, sep ∉ piece)
      (trims : List.Forall₂ Trims raw pieces) : Cut sep (joined sep raw) pieces

theorem trims_iff : Trims cs a ↔ trim cs = a := by
  refine ⟨?_, ?_⟩
  · rintro ⟨⟨lead, tail, rfl, hlead, htail⟩, htrimmed⟩
    rw [trim_blank_append hlead, trim_append_blank htail, htrimmed.trim_eq]
  · rintro rfl
    exact ⟨exists_blank_trim cs, trimmed_trim cs⟩

/-- **The parts of a text are its cut**, and it has no other. -/
theorem cut_iff : Cut sep cs pieces ↔ parts sep cs = pieces := by
  have htrims : ∀ raw, List.Forall₂ Trims raw pieces ↔ raw.map trim = pieces := by
    intro raw
    have hrel : Trims = fun cs piece => trim cs = piece :=
      funext fun cs => funext fun piece => propext trims_iff
    rw [hrel, ← List.forall₂_map_left_iff, List.forall₂_eq_eq_eq]
  refine ⟨?_, fun h => ?_⟩
  · -- Cutting what the raw pieces are joined to yields them again, as none has the separator in it.
    rintro ⟨ne_nil, free, trims⟩
    unfold parts joined
    rw [List.splitOn_intercalate sep free ne_nil]
    exact (htrims _).mp trims
  · -- The pieces that cutting yields are joined to the text again.
    have hcut := Cut.intro (List.splitOn_ne_nil sep cs) (fun _ => not_mem_of_mem_splitOn)
      ((htrims _).mpr h)
    rwa [joined, List.intercalate_splitOn] at hcut

theorem cut_parts (sep : Char) (cs : List Char) : Cut sep cs (parts sep cs) :=
  cut_iff.mpr rfl

end MetricSeries.Text
