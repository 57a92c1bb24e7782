import MetricSeries.Proofs.Definition.Grammar
import MetricSeries.Proofs.Definition.Identifiers

/-!
# The canonical text of definitions

A definition that has been read is written back as a clause that names its systems one by one,
without groups, repetitions, leading zeros or blank space. The invariant of what has been read is
`Canonical`: the systems are distinct, have tokens and are of the database, and no name holds a
separator or has blank space around it.

* `Accepts.canonical` — a clause is accepted as a canonical definition only;
* `Canonical.parseClause_chars` — the clause that writes a canonical definition reads back as it;
* `parse_intercalate_text` — **the written definitions read back** as what they were read from, as
  long as the members of groups have no negative numbers, for which there are no tokens.

The two separators are kept apart by `Printable`: a token that is written holds neither of them, so
that neither the clauses nor the tokens of a written text are cut differently.
-/

namespace MetricSeries.Definition

open Fallible

variable {db : Database} {m : Membership} {clause cs : List Char} {d : Definition}
  {ds : List Definition} {text : String} {s : SystemId}

/-! ### Tokens that can be written -/

/-- **A token that is read back as written**: it is not empty, has no blank space around it, and
holds no separator. -/
structure Printable (token : List Char) : Prop where
  trimmed : Text.Trimmed token
  ne_nil : token ≠ []
  token_separator : tokenSeparator ∉ token
  clause_separator : clauseSeparator ∉ token

theorem printable_name (k : Method) : Printable k.name.toList where
  trimmed := by
    have hall : k.name.toList.all (!Text.isBlank ·) = true := by cases k <;> decide
    refine Text.trimmed_of_forall fun c hc => ?_
    simpa using List.all_eq_true.mp hall c hc
  ne_nil := by cases k <;> decide
  token_separator := by cases k <;> decide
  clause_separator := by cases k <;> decide

theorem printable_chars (h : s.Nameable) : Printable s.chars where
  trimmed := h.trimmed_chars
  ne_nil := List.ne_nil_of_mem (SystemId.Nameable.dot_mem_chars s)
  token_separator := h.separator_not_mem.2
  clause_separator := h.separator_not_mem.1

/-- The tokens of a clause can be written, unless they are empty. -/
theorem printable_of_mem_parts {token : List Char} (hclause : clause ∈ clauses cs)
    (htoken : token ∈ Text.parts tokenSeparator clause) (hne : token ≠ []) : Printable token where
  trimmed := (Text.parts_pieces htoken).1
  ne_nil := hne
  token_separator := (Text.parts_pieces htoken).2
  clause_separator := by
    intro hmem
    -- The clause was cut at the separator, and the token is a part of the clause.
    have hpart := (List.mem_filter.mp hclause).1
    exact (Text.parts_pieces hpart).2 (Text.mem_of_mem_parts htoken hmem)

/-! ### Canonical definitions -/

/-- **The invariant of definitions that have been read.** -/
structure Canonical (db : Database) (d : Definition) : Prop where
  systems_ne : d.systems ≠ []
  nodup : d.systems.Nodup
  scope : ∀ s ∈ d.systems, s.database = db.id
  nameable : ∀ s ∈ d.systems, s.Nameable
  category : Printable d.category.toList
  field : Printable d.field.toList

theorem Heads.subset {tokens rest : List (List Char)} {method : Option Method}
    (h : Heads tokens method rest) : ∀ token ∈ rest, token ∈ tokens := by
  intro token htoken
  cases h with
  | plain => exact htoken
  | override => exact List.mem_cons_of_mem _ htoken

/-- The systems that the identifiers of a clause stand for have tokens. -/
theorem nameable_of_mem_expansion {tokens : List (List Char)} {idents : List Ident}
    (hm : ∀ g, ∀ s ∈ m g, 0 ≤ s.number.toInt) (names : Names tokens idents)
    (scope : ∀ i ∈ idents, i.database = db.id)
    (members : ∀ i ∈ idents, ∀ s ∈ i.systems m, s.database = db.id)
    (hs : s ∈ expansion m idents) : s.Nameable := by
  obtain ⟨i, hi, hsi⟩ := List.mem_flatMap.mp hs
  obtain ⟨token, -, hread⟩ := names.exists_token hi
  have htoken := Ident.parseChars_eq_ok_iff.mp hread
  cases i with
  | system s' =>
    obtain rfl : s = s' := List.mem_singleton.mp hsi
    exact Ident.nameable_of_ofChars? htoken
  | group g =>
    -- The members are of the database of the group, which was read from a token.
    have hidentity := Ident.isIdentity_of_ofChars? htoken
    rw [scope _ hi, ← members _ hi s hsi] at hidentity
    exact ⟨hidentity, hm g s hsi⟩

/-- The names of a definition that has been read can be written again. -/
theorem Accepts.printable_names (hclause : clause ∈ clauses cs) (h : Accepts db m clause d) :
    Printable d.category.toList ∧ Printable d.field.toList := by
  obtain @⟨method, tokens, category, field, idents, shape, -, -, -, -⟩ := h
  have hcategory := shape.heads.subset category (by simp)
  have hfield := shape.heads.subset field (by simp)
  rw [String.toList_ofList, String.toList_ofList]
  exact ⟨printable_of_mem_parts hclause hcategory shape.category_ne,
    printable_of_mem_parts hclause hfield shape.field_ne⟩

/-- **What is read is canonical.** -/
theorem Accepts.canonical (hm : ∀ g, ∀ s ∈ m g, 0 ≤ s.number.toInt)
    (hclause : clause ∈ clauses cs) (h : Accepts db m clause d) : Canonical db d := by
  obtain ⟨hcategory, hfield⟩ := h.printable_names hclause
  obtain @⟨method, tokens, category, field, idents, shape, names, scope, members, systems⟩ := h
  have hresolve := resolveSystems_eq_ok_iff.mpr ⟨forall_checked_iff.mpr ⟨scope, members⟩, rfl⟩
  obtain ⟨hnodup, hsystems⟩ := of_resolveSystems hresolve
  -- The systems are as resolving leaves them, and the names are tokens of the clause.
  constructor
  case systems_ne => exact mt eraseDups_eq_nil_iff.mp systems
  case nodup => exact hnodup
  case scope =>
    intro s hs
    exact (hsystems s hs).1
  case nameable =>
    intro s hs
    exact nameable_of_mem_expansion hm names scope members (List.mem_eraseDups.mp hs)
  case category => exact hcategory
  case field => exact hfield

namespace Canonical

variable (h : Canonical db d)

include h

theorem printable_of_mem_tokens : ∀ token ∈ d.tokens, Printable token := by
  intro token htoken
  unfold tokens at htoken
  simp only [List.mem_append, Option.mem_toList, Option.map_eq_some_iff, List.mem_map,
    List.mem_cons, List.not_mem_nil, or_false] at htoken
  rcases htoken with (⟨k, -, rfl⟩ | ⟨s, hs, rfl⟩) | rfl | rfl
  · exact printable_name k
  · exact printable_chars (h.nameable s hs)
  · exact h.category
  · exact h.field

theorem parts_chars : Text.parts tokenSeparator d.chars = d.tokens := by
  refine Text.parts_joined (fun token htoken => ?_) (by simp [tokens])
  have hprintable := h.printable_of_mem_tokens token htoken
  exact ⟨hprintable.trimmed, hprintable.token_separator⟩

/-- The written clause has the shape of a definition: where no method is written, the first token
is that of a system, and its dot tells. -/
theorem shape_chars : Shape d.chars d.method (d.systems.map SystemId.chars) d.category.toList
    d.field.toList where
  head := by
    rw [begins_iff, h.parts_chars]
    unfold tokens
    cases d.method with
    | some k => exact .override
    | none =>
      -- There is a first system, and its token has a dot.
      obtain ⟨s, others, hsystems⟩ := List.exists_cons_of_ne_nil h.systems_ne
      rw [hsystems]
      exact .plain (.inr (SystemId.Nameable.dot_mem_chars s))
  tokens_ne := by simpa using h.systems_ne
  category_ne := h.category.ne_nil
  field_ne := h.field.ne_nil

theorem names_chars : Names (d.systems.map SystemId.chars) (d.systems.map .system) := by
  refine List.forall₂_map_left_iff.mpr (List.forall₂_map_right_iff.mpr ?_)
  exact List.forall₂_same.mpr fun s hs => (h.nameable s hs).parseChars_chars

/-- **The written clause reads back** as the definition. -/
theorem parseClause_chars : parseClause db m d.chars = .ok d := by
  rw [h.shape_chars.parseClause_eq, mapM_eq_ok_iff.mpr h.names_chars, ok_bind,
    resolveSystems_systems h.nodup h.scope, ok_bind, if_neg (by simpa using h.systems_ne),
    String.ofList_toList, String.ofList_toList]

/-- The written clause can stand between two others. -/
theorem chars_piece : (Text.Trimmed d.chars ∧ clauseSeparator ∉ d.chars) ∧ d.chars ≠ [] := by
  have hprintable := h.printable_of_mem_tokens
  have htokens : d.tokens ≠ [] := by simp [tokens]
  obtain ⟨htrimmed, hne⟩ : Text.Trimmed d.chars ∧ d.chars ≠ [] :=
    Text.trimmed_joined (fun token htoken =>
      ⟨(hprintable token htoken).trimmed, (hprintable token htoken).ne_nil⟩) htokens
  refine ⟨⟨htrimmed, fun hmem => ?_⟩, hne⟩
  -- The character would be the other separator or stand in a token.
  obtain hsep | ⟨token, htoken, hc⟩ := Text.mem_joined hmem
  · exact absurd hsep (by decide)
  · exact (hprintable token htoken).clause_separator hc

end Canonical

/-! ### Texts -/

theorem canonical_of_parse (hm : ∀ g, ∀ s ∈ m g, 0 ≤ s.number.toInt)
    (h : parse db m text = .ok ds) : ds ≠ [] ∧ ∀ d ∈ ds, Canonical db d := by
  obtain ⟨hne, haccepts⟩ := parse_eq_ok_iff.mp h
  refine ⟨?_, ?_⟩
  · rintro rfl
    exact hne (List.forall₂_nil_right_iff.mp haccepts)
  · -- Every definition was read from the clause at its own place.
    intro d hd
    obtain ⟨i, hi, rfl⟩ := List.getElem_of_mem hd
    have hlength := haccepts.length_eq
    have hclause := haccepts.get (show i < (clauses text.toList).length by omega) hi
    exact hclause.canonical hm (List.getElem_mem _)

/-- The clauses of canonical definitions, joined, are cut where they were joined. -/
theorem clauses_joined_chars (hne : ds ≠ []) (h : ∀ d ∈ ds, Canonical db d) :
    clauses (Text.joined clauseSeparator (ds.map chars)) = ds.map chars := by
  have hpieces : ∀ cs ∈ ds.map chars, (Text.Trimmed cs ∧ clauseSeparator ∉ cs) ∧ cs ≠ [] := by
    intro cs hcs
    obtain ⟨d, hd, rfl⟩ := List.mem_map.mp hcs
    exact (h d hd).chars_piece
  unfold clauses
  rw [Text.parts_joined (fun cs hcs => (hpieces cs hcs).1) (by simpa using hne)]
  refine List.filter_eq_self.mpr fun cs hcs => ?_
  simpa using (hpieces cs hcs).2

/-- The definitions as one text: their clauses with the separator between them. -/
theorem toList_intercalate_text (ds : List Definition) :
    ("_".intercalate (ds.map Definition.text)).toList =
      Text.joined clauseSeparator (ds.map chars) := by
  rw [String.toList_intercalate, List.map_map]
  have htext : String.toList ∘ Definition.text = chars := by
    funext d
    exact String.toList_ofList
  rw [htext]
  rfl

/-- **Written definitions read back.** Whatever a text was read as, the canonical text of that is
read as the same, in the same database and with the same groups. Members of groups must not have
negative numbers: there is no token for such a system. -/
theorem parse_intercalate_text (hm : ∀ g, ∀ s ∈ m g, 0 ≤ s.number.toInt)
    (h : parse db m text = .ok ds) :
    parse db m ("_".intercalate (ds.map Definition.text)) = .ok ds := by
  obtain ⟨hne, hcanonical⟩ := canonical_of_parse hm h
  have hclauses : clauses ("_".intercalate (ds.map Definition.text)).toList = ds.map chars := by
    rw [toList_intercalate_text, clauses_joined_chars hne hcanonical]
  -- Each written clause is a clause of the written text, and reads back on its own.
  have hclauses_ne : clauses ("_".intercalate (ds.map Definition.text)).toList ≠ [] := by
    rw [hclauses]
    simpa using hne
  rw [parse_of_clauses_ne_nil hclauses_ne, hclauses, mapM_eq_ok_iff]
  refine List.forall₂_map_left_iff.mpr (List.forall₂_same.mpr fun d hd => ?_)
  exact (hcanonical d hd).parseClause_chars

/-- Two definitions, the first with an override and two systems. -/
def sampleDefinitions : List Definition :=
  [⟨some .max, [⟨"ABCD-EFGH", 3⟩, ⟨"ABCD-EFGH", 12⟩], "P.s", "f"⟩,
    ⟨none, [⟨"ABCD-EFGH", 1⟩], "C", "f"⟩]

/-- Leading zeros, a group with a member that is listed as well, padding and a blank clause: none
of it is in the canonical text, which reads back all the same. -/
theorem parse_intercalate_text_sample :
    "_".intercalate (sampleDefinitions.map Definition.text) =
        "MAX~ABCD-EFGH.3~ABCD-EFGH.12~P.s~f_ABCD-EFGH.1~C~f" ∧
      parse { id := "ABCD-EFGH" } sampleMembership
          ("_".intercalate (sampleDefinitions.map Definition.text)) = .ok sampleDefinitions := by
  -- The only group with members has two, with numbers that are not negative.
  have hm : ∀ g, ∀ s ∈ sampleMembership g, 0 ≤ s.number.toInt := by
    intro g s hs
    unfold sampleMembership Membership.insert at hs
    split at hs
    · simp only [List.mem_cons, List.not_mem_nil, or_false] at hs
      rcases hs with rfl | rfl
      · decide
      · decide
    · exact absurd hs List.not_mem_nil
  have hread : parse { id := "ABCD-EFGH" } sampleMembership
      " MAX ~ABCD-EFGH.003~ABCD-EFGH.GROUP.7~ P.s~f_ _ABCD-EFGH.1~C~f" = .ok sampleDefinitions := by
    decide +kernel
  exact ⟨by decide +kernel, parse_intercalate_text hm hread⟩

end MetricSeries.Definition
