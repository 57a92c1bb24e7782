import MetricSeries.Proofs.Definition.Canonical

/-!
# Rewriting the systems of a clause

The tokens of a clause that name its systems can be written in many ways. `Rewrites` lists what can
be done to them: they change places, one of them is said once more, or the token of a group makes
way for the tokens of its members. `ClauseRewrites` does that to the tokens of a clause and leaves
its method, its category and its field alone, and `TextRewrites` does it to the clauses of a
definition text.

What survives is the set of the systems that are named (`Rewrites.named_iff`), and that is all that
a definition keeps of the tokens but for the order (`Shape.accepts`). So a text that is read
is still read after it has been rewritten, as definitions that differ from the first ones in the
order of their systems (`TextRewrites.parse_eq_ok`).
-/

namespace MetricSeries.Definition

open Fallible

variable {db : Database} {m : Membership} {clause clause' category field token : List Char}
  {method : Option Method} {tokens tokens' : List (List Char)} {idents : List Ident}
  {d : Definition} {ds : List Definition} {text text' : String} {s : SystemId}

/-! ### What tokens name -/

/-- The token stands for the system, or for a group that the system is a member of. -/
def Denotes (m : Membership) (token : List Char) (s : SystemId) : Prop :=
  ∃ i, Ident.parseChars token = .ok i ∧ s ∈ i.systems m

/-- **The systems that tokens name.** -/
def Named (m : Membership) (tokens : List (List Char)) (s : SystemId) : Prop :=
  ∃ token ∈ tokens, Denotes m token s

/-- **A token is in scope** when it reads as an identifier of the database that stands for systems
of the database only. -/
def InScope (db : Database) (m : Membership) (token : List Char) : Prop :=
  ∃ i, Ident.parseChars token = .ok i ∧ i.database = db.id ∧ ∀ s ∈ i.systems m, s.database = db.id

theorem denotes_iff {i : Ident} (hread : Ident.parseChars token = .ok i) :
    Denotes m token s ↔ s ∈ i.systems m := by
  unfold Denotes
  simp [hread]

theorem named_cons : Named m (token :: tokens) s ↔ Denotes m token s ∨ Named m tokens s := by
  unfold Named
  simp

theorem named_append :
    Named m (tokens ++ tokens') s ↔ Named m tokens s ∨ Named m tokens' s := by
  unfold Named
  simp only [List.mem_append, or_and_right, exists_or]

theorem inScope_iff {i : Ident} (hread : Ident.parseChars token = .ok i) :
    InScope db m token ↔ i.database = db.id ∧ ∀ s ∈ i.systems m, s.database = db.id := by
  unfold InScope
  simp [hread]

theorem InScope.hyphen_mem (h : InScope db m token) : '-' ∈ token := by
  obtain ⟨i, hread, -⟩ := h
  exact Ident.hyphen_mem_of_parseChars hread

theorem Names.forall_inScope_iff (names : Names tokens idents) :
    (∀ token ∈ tokens, InScope db m token) ↔
      (∀ i ∈ idents, i.database = db.id) ∧
        ∀ i ∈ idents, ∀ s ∈ i.systems m, s.database = db.id := by
  refine ⟨?_, ?_⟩
  · -- Each identifier was read from a token, and each token has been read as an identifier.
    intro h
    have hident : ∀ i ∈ idents, i.database = db.id ∧ ∀ s ∈ i.systems m, s.database = db.id := by
      intro i hi
      obtain ⟨token, htoken, hread⟩ := names.exists_token hi
      exact (inScope_iff hread).mp (h token htoken)
    exact ⟨fun i hi => (hident i hi).1, fun i hi => (hident i hi).2⟩
  · rintro ⟨hscope, hmembers⟩ token htoken
    obtain ⟨i, hi, hread⟩ := names.exists_ident htoken
    exact (inScope_iff hread).mpr ⟨hscope i hi, hmembers i hi⟩

theorem Names.mem_expansion_iff (names : Names tokens idents) :
    s ∈ expansion m idents ↔ Named m tokens s := by
  unfold expansion Named
  -- Both sides speak of the same list, once by its identifiers and once by its tokens.
  rw [List.mem_flatMap]
  refine ⟨?_, ?_⟩
  · rintro ⟨i, hi, hs⟩
    obtain ⟨token, htoken, hread⟩ := names.exists_token hi
    exact ⟨token, htoken, (denotes_iff hread).mpr hs⟩
  · rintro ⟨token, htoken, hs⟩
    obtain ⟨i, hi, hread⟩ := names.exists_ident htoken
    exact ⟨i, hi, (denotes_iff hread).mp hs⟩

theorem exists_names (h : ∀ token ∈ tokens, InScope db m token) :
    ∃ idents, Names tokens idents := by
  obtain ⟨idents, hidents⟩ : ∃ idents, tokens.mapM Ident.parseChars = .ok idents :=
    exists_mapM_iff.mpr fun token htoken => by
      obtain ⟨i, hread, -⟩ := h token htoken
      exact ⟨i, hread⟩
  exact ⟨idents, mapM_eq_ok_iff.mp hidents⟩

/-! ### Clauses of a shape -/

/-- **What a definition keeps of the tokens.** A clause whose tokens are in scope and name a system
is accepted, and the systems of the definition are the named ones, each of them once. -/
theorem Shape.accepts (shape : Shape clause method tokens category field)
    (hscope : ∀ token ∈ tokens, InScope db m token) (hnamed : Named m tokens s) :
    ∃ systems, systems.Nodup ∧ (∀ s, s ∈ systems ↔ Named m tokens s) ∧
      Accepts db m clause ⟨method, systems, String.ofList category, String.ofList field⟩ := by
  obtain ⟨idents, names⟩ := exists_names hscope
  obtain ⟨hidents, hmembers⟩ := names.forall_inScope_iff.mp hscope
  refine ⟨(expansion m idents).eraseDups, nodup_eraseDups _, ?_, ?_⟩
  · intro s
    rw [List.mem_eraseDups, names.mem_expansion_iff]
  · exact .intro shape names hidents hmembers
      (List.ne_nil_of_mem (names.mem_expansion_iff.mpr hnamed))

theorem Accepts.of_shape (h : Accepts db m clause d)
    (shape : Shape clause method tokens category field) :
    (∀ token ∈ tokens, InScope db m token) ∧ d.systems ≠ [] ∧ d.systems.Nodup ∧
      (∀ s, s ∈ d.systems ↔ Named m tokens s) ∧
      d = ⟨method, d.systems, String.ofList category, String.ofList field⟩ := by
  obtain ⟨shape', names, hscope, hmembers, hsystems⟩ := h
  -- A clause has only one shape.
  obtain ⟨rfl, rfl, rfl, rfl⟩ := shape.unique shape'
  refine ⟨names.forall_inScope_iff.mpr ⟨hscope, hmembers⟩, mt eraseDups_eq_nil_iff.mp hsystems,
    nodup_eraseDups _, fun s => ?_, rfl⟩
  rw [List.mem_eraseDups, names.mem_expansion_iff]

/-- Tokens in scope behind the name of a method, or at the start of a clause where there is none:
the method is told from the tokens by the hyphen that they have. -/
theorem Shape.of_parts
    (hparts : Text.parts tokenSeparator clause =
      (method.map fun k => k.name.toList).toList ++ tokens ++ [category, field])
    (hscope : ∀ token ∈ tokens, InScope db m token) (htokens : tokens ≠ [])
    (hcategory : category ≠ []) (hfield : field ≠ []) :
    Shape clause method tokens category field where
  head := by
    rw [begins_iff, hparts]
    -- Without a method the first token must be seen to be no method, which its hyphen shows.
    cases method with
    | some k => exact .override
    | none =>
      obtain ⟨first, others, rfl⟩ := List.exists_cons_of_ne_nil htokens
      exact .plain (.inl (hscope first List.mem_cons_self).hyphen_mem)
  tokens_ne := htokens
  category_ne := hcategory
  field_ne := hfield

/-! ### Rewriting -/

/-- **Rewriting the tokens that name the systems of a clause.** -/
inductive Rewrites (m : Membership) : List (List Char) → List (List Char) → Prop where
  /-- The tokens change places. -/
  | reorder {tokens tokens' : List (List Char)} (perm : tokens.Perm tokens') :
      Rewrites m tokens tokens'
  /-- A token is said once more. -/
  | again {token : List Char} {tokens : List (List Char)} (mem : token ∈ tokens) :
      Rewrites m tokens (token :: tokens)
  /-- The token of a group that has members, none of them with a negative number, makes way for
  their tokens. -/
  | members {token : List Char} {before after : List (List Char)} {g : GroupId}
      (group : Ident.parseChars token = .ok (.group g)) (nonempty : m g ≠ [])
      (numbers : ∀ s ∈ m g, 0 ≤ s.number.toInt) :
      Rewrites m (before ++ token :: after) (before ++ (m g).map SystemId.chars ++ after)
  | trans {tokens tokens' tokens'' : List (List Char)} (first : Rewrites m tokens tokens')
      (second : Rewrites m tokens' tokens'') : Rewrites m tokens tokens''

/-- **Rewriting a clause**: it stays as it is, or the tokens between its method and its category
are rewritten. -/
inductive ClauseRewrites (m : Membership) (clause : List Char) : List Char → Prop where
  | same : ClauseRewrites m clause clause
  | tokens {method : Option Method} {tokens tokens' : List (List Char)}
      {clause' category field : List Char} (shape : Shape clause method tokens category field)
      (rewrites : Rewrites m tokens tokens')
      (parts : Text.parts tokenSeparator clause' =
        (method.map fun k => k.name.toList).toList ++ tokens' ++ [category, field]) :
      ClauseRewrites m clause clause'

/-- **Rewriting a definition text**, clause by clause. -/
def TextRewrites (m : Membership) (text text' : String) : Prop :=
  List.Forall₂ (ClauseRewrites m) (clauses text.toList) (clauses text'.toList)

/-- The members of a group in scope have tokens of their own. -/
theorem parseChars_chars_of_member {g : GroupId}
    (hgroup : Ident.parseChars token = .ok (.group g)) (hscope : InScope db m token)
    (hs : s ∈ m g) (hnumber : 0 ≤ s.number.toInt) :
    s.database = db.id ∧ Ident.parseChars s.chars = .ok (.system s) := by
  obtain ⟨hdatabase, hmembers⟩ := (inScope_iff hgroup).mp hscope
  -- The identity of the database was read from the token of the group.
  have hidentity := Ident.isIdentity_of_ofChars? (Ident.parseChars_eq_ok_iff.mp hgroup)
  rw [hdatabase, ← hmembers s hs] at hidentity
  exact ⟨hmembers s hs, SystemId.Nameable.parseChars_chars ⟨hidentity, hnumber⟩⟩

/-- The tokens of the members of a group name what the token of the group names. -/
theorem members_named_iff {g : GroupId} (hgroup : Ident.parseChars token = .ok (.group g))
    (hscope : InScope db m token) (hnumbers : ∀ s ∈ m g, 0 ≤ s.number.toInt) :
    (∀ member ∈ (m g).map SystemId.chars, InScope db m member) ∧
      ∀ s, Named m ((m g).map SystemId.chars) s ↔ Denotes m token s := by
  -- The token written for a member is read as this member.
  have hread : ∀ s ∈ m g, s.database = db.id ∧ Ident.parseChars s.chars = .ok (.system s) :=
    fun s hs => parseChars_chars_of_member hgroup hscope hs (hnumbers s hs)
  refine ⟨?_, fun s => ?_⟩
  · intro member hmember
    obtain ⟨s, hs, rfl⟩ := List.mem_map.mp hmember
    obtain ⟨hdatabase, hchars⟩ := hread s hs
    refine (inScope_iff hchars).mpr ⟨hdatabase, fun s' hs' => ?_⟩
    obtain rfl := List.mem_singleton.mp hs'
    exact hdatabase
  · rw [denotes_iff hgroup]
    refine ⟨?_, ?_⟩
    · rintro ⟨member, hmember, hdenotes⟩
      obtain ⟨s', hs', rfl⟩ := List.mem_map.mp hmember
      obtain rfl := List.mem_singleton.mp ((denotes_iff (hread s' hs').2).mp hdenotes)
      exact hs'
    · intro hs
      exact ⟨s.chars, List.mem_map_of_mem hs,
        (denotes_iff (hread s hs).2).mpr (List.mem_singleton_self s)⟩

/-- **Rewriting keeps what is named**: tokens in scope are in scope after they have been rewritten,
and name the same systems. -/
theorem Rewrites.named_iff (h : Rewrites m tokens tokens')
    (hscope : ∀ token ∈ tokens, InScope db m token) :
    (∀ token ∈ tokens', InScope db m token) ∧ ∀ s, Named m tokens' s ↔ Named m tokens s := by
  -- By induction on the rewriting: a step keeps what is in scope and what is named, and a chain of
  -- steps keeps what its parts keep.
  induction h with
  | reorder perm =>
    refine ⟨fun token htoken => hscope token (perm.mem_iff.mpr htoken), fun s => ?_⟩
    unfold Named
    simp only [perm.mem_iff]
  | again mem =>
    refine ⟨List.forall_mem_cons.mpr ⟨hscope _ mem, hscope⟩, fun s => ?_⟩
    rw [named_cons]
    exact or_iff_right_of_imp fun hs => ⟨_, mem, hs⟩
  | @members token before after g group nonempty numbers =>
    simp only [List.forall_mem_append, List.forall_mem_cons] at hscope
    obtain ⟨hbefore, htoken, hafter⟩ := hscope
    obtain ⟨hmembers, hnamed⟩ := members_named_iff group htoken numbers
    refine ⟨?_, fun s => ?_⟩
    · simp only [List.forall_mem_append]
      exact ⟨⟨hbefore, hmembers⟩, hafter⟩
    · simp only [named_append, named_cons, hnamed, or_assoc]
  | trans first second ih₁ ih₂ =>
    obtain ⟨hscope', hnamed⟩ := ih₁ hscope
    obtain ⟨hscope'', hnamed'⟩ := ih₂ hscope'
    exact ⟨hscope'', fun s => (hnamed' s).trans (hnamed s)⟩

/-- **Two definitions for the same systems**, which they may list in different orders. -/
structure Reordered (d d' : Definition) : Prop where
  method : d'.method = d.method
  category : d'.category = d.category
  field : d'.field = d.field
  systems : d'.systems.Perm d.systems

/-- A clause that is accepted is still accepted after it has been rewritten. -/
theorem ClauseRewrites.parseClause_eq_ok (h : ClauseRewrites m clause clause')
    (hd : parseClause db m clause = .ok d) :
    ∃ d', parseClause db m clause' = .ok d' ∧ d.Reordered d' := by
  -- Both sides are read by the same shape, so that only their tokens are to be compared.
  simp only [parseClause_eq_ok_iff] at hd ⊢
  cases h with
  | same => exact ⟨d, hd, rfl, rfl, rfl, .refl _⟩
  | @tokens method tokens tokens' _ category field shape rewrites parts =>
    obtain ⟨hscope, hne, hnodup, hsystems, hd⟩ := hd.of_shape shape
    obtain ⟨hscope', hnamed⟩ := rewrites.named_iff hscope
    -- Some system is named by the tokens, so it is named by the rewritten ones.
    obtain ⟨s, others, hcons⟩ := List.exists_cons_of_ne_nil hne
    have hs : Named m tokens' s := by
      rw [hnamed, ← hsystems, hcons]
      exact List.mem_cons_self
    have htokens' : tokens' ≠ [] := by
      obtain ⟨token, htoken, -⟩ := hs
      exact List.ne_nil_of_mem htoken
    obtain ⟨systems, hnodup', hsystems', haccepts⟩ :=
      (Shape.of_parts parts hscope' htokens' shape.category_ne shape.field_ne).accepts hscope' hs
    refine ⟨_, haccepts, ?_⟩
    rw [hd]
    refine ⟨rfl, rfl, rfl, (List.perm_ext_iff_of_nodup hnodup' hnodup).mpr fun s => ?_⟩
    rw [hsystems', hsystems, hnamed]

/-- **A text that is read is still read after it has been rewritten.** The definitions differ in
the order of their systems at most. -/
theorem TextRewrites.parse_eq_ok (h : TextRewrites m text text') (hds : parse db m text = .ok ds) :
    ∃ ds', parse db m text' = .ok ds' ∧ List.Forall₂ Reordered ds ds' := by
  obtain ⟨hne, -⟩ := parse_eq_ok_iff.mp hds
  -- Rewriting keeps the number of clauses, so that the text does not become blank.
  have hne' : clauses text'.toList ≠ [] := by
    intro hnil
    have hlength := h.length_eq
    rw [hnil] at hlength
    exact hne (List.length_eq_zero_iff.mp hlength)
  rw [parse_of_clauses_ne_nil hne] at hds
  rw [parse_of_clauses_ne_nil hne']
  refine mapM_eq_ok_of_forall₂ (fun clause clause' d hrewrites hd => ?_) h hds
  exact hrewrites.parseClause_eq_ok hd

end MetricSeries.Definition
