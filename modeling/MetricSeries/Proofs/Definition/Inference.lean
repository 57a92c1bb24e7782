import MetricSeries.Proofs.Definition.Canonical

/-!
# The database that a text names

The database of a definition text can be told without one: it is that of the first token that reads
as an identifier. The scan for it knows no clauses that are blank, no methods and no names, and it
looks at the tokens before the clauses are trimmed. Yet it comes to the same as a look at the
clauses one by one (`inferDatabase_eq`), and what it finds in an accepted clause is its first
system or group, since the method in front has no hyphen (`Accepts.clauseDatabase_eq`). So a text
that is read in a database names this database and no other (`inferDatabase_of_parse`).
-/

namespace MetricSeries.Definition

variable {db : Database} {m : Membership} {clause : List Char} {d : Definition}
  {ds : List Definition} {text : String}

/-! ### Scanning clause by clause -/

/-- The database of a token that reads as an identifier. -/
def tokenDatabase (token : List Char) : Option String :=
  (Ident.ofChars? token).map Ident.database

/-- The database of the first token of a clause that reads as an identifier. -/
def clauseDatabase (clause : List Char) : Option String :=
  (Text.parts tokenSeparator clause).findSome? tokenDatabase

theorem findSome?_flatMap {α β γ : Type} (f : α → List β) (g : β → Option γ) (l : List α) :
    (l.flatMap f).findSome? g = l.findSome? fun a => (f a).findSome? g := by
  induction l with
  | nil => rfl
  | cons a l ih =>
    rw [List.flatMap_cons, List.findSome?_append, ih, List.findSome?_cons]
    cases (f a).findSome? g <;> rfl

/-- Blank space around a clause does not count. -/
theorem clauseDatabase_trim (clause : List Char) :
    clauseDatabase (Text.trim clause) = clauseDatabase clause := by
  unfold clauseDatabase
  rw [Text.parts_trim (by decide)]

/-- Parts that are blank hold no identifier. -/
theorem findSome?_clauses (cs : List Char) :
    (clauses cs).findSome? clauseDatabase =
      (Text.parts clauseSeparator cs).findSome? clauseDatabase := by
  unfold clauses
  -- Clauses are the parts that are not empty, and an empty part names no database.
  induction Text.parts clauseSeparator cs with
  | nil => rfl
  | cons part parts ih =>
    cases part with
    | nil => exact ih
    | cons c cs => rw [List.filter_cons_of_pos rfl, List.findSome?_cons, List.findSome?_cons, ih]

/-- **Clause by clause**: the database is that of the first clause that holds an identifier. -/
theorem inferDatabase_eq (text : String) :
    inferDatabase text = (clauses text.toList).findSome? clauseDatabase := by
  -- Trimming a clause first makes no difference, as its tokens are trimmed in any case.
  have hclause : ∀ clause : List Char,
      (clause.splitOn tokenSeparator).findSome? (fun token => tokenDatabase (Text.trim token)) =
        clauseDatabase (Text.trim clause) := by
    intro clause
    rw [clauseDatabase_trim]
    unfold clauseDatabase Text.parts
    rw [List.findSome?_map]
    rfl
  calc inferDatabase text
      = (text.toList.splitOn clauseSeparator).findSome? fun clause =>
          (clause.splitOn tokenSeparator).findSome? fun token => tokenDatabase (Text.trim token) :=
        findSome?_flatMap _ _ _
    _ = (text.toList.splitOn clauseSeparator).findSome? fun clause =>
          clauseDatabase (Text.trim clause) := congrArg (List.findSome? · _) (funext hclause)
    _ = (Text.parts clauseSeparator text.toList).findSome? clauseDatabase := by
        unfold Text.parts
        rw [List.findSome?_map]
        rfl
    _ = (clauses text.toList).findSome? clauseDatabase := (findSome?_clauses _).symm

/-! ### Accepted clauses -/

/-- The method in front of a clause is not taken for an identifier. -/
theorem Heads.findSome?_eq {parts rest : List (List Char)} {method : Option Method}
    (h : Heads parts method rest) :
    parts.findSome? tokenDatabase = rest.findSome? tokenDatabase := by
  cases h with
  | plain => rfl
  | @override k =>
    have hname : tokenDatabase k.name.toList = none := by cases k <;> decide
    rw [List.findSome?_cons, hname]

/-- **A clause that is accepted names the database**, by the first of its systems and groups. -/
theorem Accepts.clauseDatabase_eq (h : Accepts db m clause d) :
    clauseDatabase clause = some db.id := by
  obtain @⟨method, tokens, category, field, idents, shape, names, scope, -, -⟩ := h
  unfold clauseDatabase
  rw [shape.heads.findSome?_eq]
  -- The first token behind the head is an identifier, so the search ends there.
  obtain ⟨first, others, rfl⟩ := List.exists_cons_of_ne_nil shape.tokens_ne
  obtain ⟨i, hi, hread⟩ := names.exists_ident List.mem_cons_self
  have htrimmed : Text.Trimmed first :=
    (Text.parts_pieces (shape.heads.subset first (by simp))).1
  have hfirst : tokenDatabase first = some db.id := by
    rw [Ident.parseChars_eq_ok_iff, htrimmed.trim_eq] at hread
    unfold tokenDatabase
    rw [hread, Option.map_some, scope i hi]
  rw [List.cons_append, List.findSome?_cons, hfirst]

/-- **A text that is read in a database** names it. -/
theorem inferDatabase_of_parse (h : parse db m text = .ok ds) :
    inferDatabase text = some db.id := by
  obtain ⟨hne, haccepts⟩ := parse_eq_ok_iff.mp h
  obtain ⟨clause, others, hclauses⟩ := List.exists_cons_of_ne_nil hne
  rw [hclauses] at haccepts
  cases haccepts with
  | cons haccepts _ =>
    rw [inferDatabase_eq, hclauses, List.findSome?_cons, haccepts.clauseDatabase_eq]

end MetricSeries.Definition
