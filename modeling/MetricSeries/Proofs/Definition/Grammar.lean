import MetricSeries.Definition
import MetricSeries.Proofs.Definition.Resolution
import MetricSeries.Proofs.Text.Pieces

/-!
# The grammar of definitions

The grammar of definition texts is stated without reference to how they are read. A text is cut
into clauses and a clause into tokens as the relation `Text.Cut` has it: the raw pieces are what has
to be joined for the text, and the pieces are what is left of them without blank space. The grammar
of a clause is stated twice.

* `Accepts` — what a clause must look like to be accepted, and the definition that it then stands
  for: an optional method, at least one identifier, a category and a field.
* `Rejects` — what is wrong with a clause, and the error that says so. There is one constructor for
  each kind of error, in the order in which they apply: each of them demands that nothing an
  earlier one speaks of is wrong.

`accepts_or_rejects` is the case distinction behind everything here: every clause falls under one
of the two. As reading agrees with both (`Accepts.parseClause_eq`, `Rejects.parseClause_eq`), it
accepts and rejects nothing else, and no clause has two readings (`parse_iff_grammar`).
-/

namespace MetricSeries.Definition

open Fallible

variable {db : Database} {m : Membership} {clause category field : List Char}
  {method : Option Method} {tokens rest : List (List Char)} {d : Definition} {e : Error}

/-! ### The grammar -/

/-- **The head of a clause.** A first token that holds a hyphen or a dot is an identifier already.
Any other first token must be the name of a method, and the identifiers are behind it. -/
inductive Heads : List (List Char) → Option Method → List (List Char) → Prop where
  | plain {first : List Char} {rest : List (List Char)} (mark : '-' ∈ first ∨ '.' ∈ first) :
      Heads (first :: rest) none (first :: rest)
  | override {method : Method} {rest : List (List Char)} :
      Heads (method.name.toList :: rest) (some method) rest

/-- **A clause begins with a head**, and these are the tokens behind it. -/
def Begins (clause : List Char) (method : Option Method) (rest : List (List Char)) : Prop :=
  ∃ tokens, Text.Cut tokenSeparator clause tokens ∧ Heads tokens method rest

/-- **The shape of a clause**: behind the head stand at least one token for the systems, then a
category and a field that are not empty. -/
structure Shape (clause : List Char) (method : Option Method) (tokens : List (List Char))
    (category field : List Char) : Prop where
  head : Begins clause method (tokens ++ [category, field])
  tokens_ne : tokens ≠ []
  category_ne : category ≠ []
  field_ne : field ≠ []

/-- The tokens read as the identifiers, one by one. -/
abbrev Names (tokens : List (List Char)) (idents : List Ident) : Prop :=
  List.Forall₂ (fun token i => Ident.parseChars token = .ok i) tokens idents

/-- **A clause is accepted** as a definition: it has the shape of one, its tokens read as
identifiers, everything they stand for is in the database, and they stand for a system at all. -/
inductive Accepts (db : Database) (m : Membership) (clause : List Char) : Definition → Prop where
  | intro {method : Option Method} {tokens : List (List Char)} {category field : List Char}
      {idents : List Ident} (shape : Shape clause method tokens category field)
      (names : Names tokens idents) (scope : ∀ i ∈ idents, i.database = db.id)
      (members : ∀ i ∈ idents, ∀ s ∈ i.systems m, s.database = db.id)
      (systems : expansion m idents ≠ []) :
      Accepts db m clause ⟨method, (expansion m idents).eraseDups, String.ofList category,
        String.ofList field⟩

/-- **A clause is rejected** with an error. -/
inductive Rejects (db : Database) (m : Membership) (clause : List Char) : Error → Prop where
  /-- The first token is no identifier, and no method has its name. -/
  | method {first : List Char} {rest : List (List Char)}
      (tokens : Text.Cut tokenSeparator clause (first :: rest))
      (mark : '-' ∉ first ∧ '.' ∉ first) (unknown : ∀ k : Method, k.name.toList ≠ first) :
      Rejects db m clause (.invalidMethod (String.ofList first))
  /-- Behind the head there are too few tokens, or the category or the field is empty. -/
  | shape {method : Option Method} {tokens : List (List Char)}
      (head : Begins clause method tokens)
      (short : tokens.length < 3 ∨ ∃ front category field, tokens = front ++ [category, field] ∧
        (category = [] ∨ field = [])) :
      Rejects db m clause (.insufficientFields (String.ofList clause))
  /-- A token does not read as an identifier, and all before it do. -/
  | ident {method : Option Method} {before after : List (List Char)}
      {token category field : List Char} {idents : List Ident} {e : Error}
      (shape : Shape clause method (before ++ token :: after) category field)
      (names : Names before idents) (unread : Ident.parseChars token = .error e) :
      Rejects db m clause e
  /-- An identifier or a member of a group is of another database, and all that is checked before
  it is not. -/
  | scope {method : Option Method} {tokens : List (List Char)} {category field : List Char}
      {idents before after : List Ident} {i : Ident}
      (shape : Shape clause method tokens category field) (names : Names tokens idents)
      (first : checked m idents = before ++ i :: after)
      (scope : ∀ j ∈ before, j.database = db.id) (foreign : i.database ≠ db.id) :
      Rejects db m clause (.scopeMismatch i.text db.id)
  /-- All groups are empty, and no system is listed. -/
  | noSystem {method : Option Method} {tokens : List (List Char)} {category field : List Char}
      {idents : List Ident} (shape : Shape clause method tokens category field)
      (names : Names tokens idents) (scope : ∀ i ∈ idents, i.database = db.id)
      (systems : expansion m idents = []) :
      Rejects db m clause (.noSystem (String.ofList clause))

/-! ### Heads and shapes -/

theorem isMethodToken_iff {token : List Char} :
    isMethodToken token = true ↔ '-' ∉ token ∧ '.' ∉ token := by
  unfold isMethodToken
  simp

/-- The head of a clause is found in its parts. -/
theorem begins_iff : Begins clause method rest ↔
    Heads (Text.parts tokenSeparator clause) method rest := by
  refine ⟨?_, fun h => ⟨_, Text.cut_parts tokenSeparator clause, h⟩⟩
  rintro ⟨tokens, hcut, head⟩
  rwa [Text.cut_iff.mp hcut]

theorem Shape.heads (h : Shape clause method tokens category field) :
    Heads (Text.parts tokenSeparator clause) method (tokens ++ [category, field]) :=
  begins_iff.mp h.head

/-- The name of a method is not taken for an identifier. -/
theorem isMethodToken_name (k : Method) : isMethodToken k.name.toList = true := by
  cases k <;> decide

theorem Heads.splitMethod_eq (h : Heads tokens method rest) :
    splitMethod tokens = .ok (method, rest) := by
  -- The mark of an identifier is what the test for a method looks for, and no name of a method has
  -- it.
  cases h with
  | plain mark =>
    unfold splitMethod
    refine if_neg fun htoken => ?_
    have hno := isMethodToken_iff.mp htoken
    exact mark.elim hno.1 hno.2
  | @override k =>
    have hparse : Method.parse (String.ofList k.name.toList) = .ok k := by
      unfold Method.parse
      rw [String.ofList_toList, Method.ofName?_name]
    unfold splitMethod
    dsimp only
    rw [if_pos (isMethodToken_name k), hparse]
    rfl

theorem splitMethod_eq_error {first : List Char} (mark : '-' ∉ first ∧ '.' ∉ first)
    (unknown : ∀ k : Method, k.name.toList ≠ first) :
    splitMethod (first :: rest) = .error (.invalidMethod (String.ofList first)) := by
  -- No method has this name, so the token that must be a method cannot be read as one.
  have hname : Method.ofName? (String.ofList first) = none := by
    refine List.find?_eq_none.mpr fun k _ hk => unknown k ?_
    rw [of_decide_eq_true hk, String.toList_ofList]
  unfold splitMethod
  dsimp only
  rw [if_pos (isMethodToken_iff.mpr mark)]
  unfold Method.parse
  rw [hname]
  rfl

/-- The head of a clause is its head in one way only. -/
theorem Heads.unique {method' : Option Method} {rest' : List (List Char)}
    (h : Heads tokens method rest) (h' : Heads tokens method' rest') :
    method = method' ∧ rest = rest' :=
  Prod.mk.inj (Except.ok.inj (h.splitMethod_eq.symm.trans h'.splitMethod_eq))

theorem Shape.splitNames?_eq (h : Shape clause method tokens category field) :
    splitNames? (tokens ++ [category, field]) = some (tokens, category, field) := by
  unfold splitNames?
  rw [List.reverse_append]
  -- From the back stand the field, the category and at least one membership token.
  obtain ⟨last, others, hreverse⟩ := List.exists_cons_of_ne_nil
    (List.reverse_ne_nil_iff.mpr h.tokens_ne)
  simp only [List.reverse_cons, List.reverse_nil, List.nil_append, List.cons_append, hreverse]
  rw [if_neg (by simp [h.category_ne, h.field_ne])]
  have htokens : others.reverse ++ [last] = tokens := by
    rw [← List.reverse_cons, ← hreverse, List.reverse_reverse]
  rw [htokens]

theorem splitNames?_eq_none (h : tokens.length < 3 ∨ ∃ front category field,
    tokens = front ++ [category, field] ∧ (category = [] ∨ field = [])) :
    splitNames? tokens = none := by
  unfold splitNames?
  split
  next field category last others hreverse =>
    have htokens : tokens = (last :: others).reverse ++ [category, field] := by
      rw [← List.reverse_reverse tokens, hreverse]
      simp
    obtain hshort | ⟨front, category', field', heq, hempty⟩ := h
    · rw [htokens, List.length_append, List.length_reverse] at hshort
      simp only [List.length_cons, List.length_nil] at hshort
      omega
    · -- The last two tokens are the same pair, whichever way the tokens are taken apart.
      rw [htokens] at heq
      obtain ⟨-, hpair⟩ := List.append_inj' heq rfl
      simp only [List.cons.injEq, and_true] at hpair
      obtain ⟨rfl, rfl⟩ := hpair
      exact if_pos (by simpa [or_comm] using hempty)
  next => rfl

theorem Shape.unique {method' : Option Method} {tokens' : List (List Char)}
    {category' field' : List Char} (h : Shape clause method tokens category field)
    (h' : Shape clause method' tokens' category' field') :
    method = method' ∧ tokens = tokens' ∧ category = category' ∧ field = field' := by
  obtain ⟨hmethod, hrest⟩ := h.heads.unique h'.heads
  obtain ⟨htokens, hnames⟩ := List.append_inj' hrest rfl
  simp only [List.cons.injEq, and_true] at hnames
  exact ⟨hmethod, htokens, hnames⟩

/-- The tokens behind the head are too few, or they end in a category and a field. -/
theorem short_or_shape (head : Begins clause method rest) :
    (rest.length < 3 ∨ ∃ front category field, rest = front ++ [category, field] ∧
      (category = [] ∨ field = [])) ∨
    ∃ tokens category field, rest = tokens ++ [category, field] ∧
      Shape clause method tokens category field := by
  by_cases hlength : rest.length < 3
  · exact .inl (.inl hlength)
  · have hsplit : rest = rest.take (rest.length - 2) ++ rest.drop (rest.length - 2) :=
      (List.take_append_drop _ _).symm
    -- There are two tokens at the end, and at least one before them.
    have htwo : (rest.drop (rest.length - 2)).length = 2 := by
      rw [List.length_drop]
      omega
    obtain ⟨category, field, hlast⟩ := List.length_eq_two.mp htwo
    rw [hlast] at hsplit
    by_cases hempty : category = [] ∨ field = []
    · exact .inl (.inr ⟨_, category, field, hsplit, hempty⟩)
    · rw [not_or] at hempty
      refine .inr ⟨_, category, field, hsplit, hsplit ▸ head, fun hnil => ?_, hempty.1, hempty.2⟩
      have hzero := congrArg List.length hnil
      rw [List.length_take] at hzero
      simp only [List.length_nil] at hzero
      omega

/-! ### Clauses -/

theorem Names.exists_ident {token : List Char} {idents : List Ident} (names : Names tokens idents)
    (htoken : token ∈ tokens) : ∃ i ∈ idents, Ident.parseChars token = .ok i := by
  induction names with
  | nil => exact absurd htoken List.not_mem_nil
  | cons hread names ih =>
    -- Tokens and identifiers stand side by side, so the one asked for is read at its own place.
    rcases List.mem_cons.mp htoken with rfl | htoken
    · exact ⟨_, List.mem_cons_self, hread⟩
    · obtain ⟨i, hi, hread⟩ := ih htoken
      exact ⟨i, List.mem_cons_of_mem _ hi, hread⟩

theorem Names.exists_token {i : Ident} {idents : List Ident} (names : Names tokens idents)
    (hi : i ∈ idents) : ∃ token ∈ tokens, Ident.parseChars token = .ok i := by
  induction names with
  | nil => exact absurd hi List.not_mem_nil
  | cons hread names ih =>
    rcases List.mem_cons.mp hi with rfl | hi
    · exact ⟨_, List.mem_cons_self, hread⟩
    · obtain ⟨token, htoken, hread⟩ := ih hi
      exact ⟨token, List.mem_cons_of_mem _ htoken, hread⟩

/-- Reading a clause that has the shape of a definition is reading its identifiers and resolving
them. -/
theorem Shape.parseClause_eq (h : Shape clause method tokens category field) :
    parseClause db m clause = tokens.mapM Ident.parseChars >>= fun idents =>
      resolveSystems db m idents >>= fun systems =>
        if systems.isEmpty then .error (.noSystem (String.ofList clause))
        else .ok ⟨method, systems, String.ofList category, String.ofList field⟩ := by
  unfold parseClause
  rw [h.heads.splitMethod_eq, ok_bind]
  dsimp only
  rw [h.splitNames?_eq]
  rfl

/-- A clause is read as what it is accepted as. -/
theorem Accepts.parseClause_eq (h : Accepts db m clause d) : parseClause db m clause = .ok d := by
  obtain ⟨shape, names, scope, members, systems⟩ := h
  have hresolve := resolveSystems_eq_ok_iff.mpr ⟨forall_checked_iff.mpr ⟨scope, members⟩, rfl⟩
  rw [shape.parseClause_eq, mapM_eq_ok_iff.mpr names, ok_bind, hresolve, ok_bind]
  refine if_neg fun hempty => systems ?_
  exact eraseDups_eq_nil_iff.mp (List.isEmpty_iff.mp hempty)

/-- Reading a clause that is rejected fails with the error. -/
theorem Rejects.parseClause_eq (h : Rejects db m clause e) :
    parseClause db m clause = .error e := by
  -- Each constructor says how far the reading comes: to the method, the names, the first bad
  -- identifier, the first foreign database, or the end without a system.
  cases h with
  | method tokens mark unknown =>
    unfold parseClause
    rw [Text.cut_iff.mp tokens, splitMethod_eq_error mark unknown]
    rfl
  | shape head short =>
    unfold parseClause
    rw [(begins_iff.mp head).splitMethod_eq, ok_bind]
    dsimp only
    rw [splitNames?_eq_none short]
  | ident shape names unread =>
    rw [shape.parseClause_eq, mapM_eq_error_iff.mpr ⟨_, _, _, _, rfl, names, unread⟩]
    rfl
  | scope shape names first scope foreign =>
    have hresolve := resolveSystems_eq_error_iff.mpr ⟨_, _, _, first, scope, foreign, rfl⟩
    rw [shape.parseClause_eq, mapM_eq_ok_iff.mpr names, ok_bind, hresolve]
    rfl
  | @noSystem _ _ _ _ idents shape names scope systems =>
    have hchecked : ∀ i ∈ checked m idents, i.database = db.id := by
      unfold checked
      rw [systems]
      simpa using scope
    have hresolve := resolveSystems_eq_ok_iff.mpr ⟨hchecked, rfl⟩
    rw [shape.parseClause_eq, mapM_eq_ok_iff.mpr names, ok_bind, hresolve, systems]
    rfl

/-- **Every clause is accepted or rejected.** -/
theorem accepts_or_rejects (db : Database) (m : Membership) (clause : List Char) :
    (∃ d, Accepts db m clause d) ∨ ∃ e, Rejects db m clause e := by
  obtain ⟨first, others, hparts⟩ :=
    List.exists_cons_of_ne_nil (Text.parts_ne_nil tokenSeparator clause)
  -- The first token decides about the method.
  by_cases hunknown : ('-' ∉ first ∧ '.' ∉ first) ∧ ∀ k : Method, k.name.toList ≠ first
  · exact .inr ⟨_, .method (Text.cut_iff.mpr hparts) hunknown.1 hunknown.2⟩
  obtain ⟨method, rest, head⟩ : ∃ method rest, Begins clause method rest := by
    simp only [begins_iff, hparts]
    by_cases hmark : '-' ∈ first ∨ '.' ∈ first
    · exact ⟨_, _, .plain hmark⟩
    · rw [not_or] at hmark
      rw [not_and] at hunknown
      obtain ⟨k, hk⟩ := not_forall.mp (hunknown hmark)
      obtain rfl := not_not.mp hk
      exact ⟨_, _, .override⟩
  -- The last two tokens are the names, and the tokens before them are read and resolved.
  obtain hshort | ⟨tokens, category, field, rfl, shape⟩ := short_or_shape head
  · exact .inr ⟨_, .shape head hshort⟩
  cases hidents : tokens.mapM Ident.parseChars with
  | error e =>
    -- The error is that of the first token that does not read.
    obtain ⟨before, token, after, idents, rfl, names, unread⟩ := mapM_eq_error_iff.mp hidents
    exact .inr ⟨_, .ident shape names unread⟩
  | ok idents =>
    have names : Names tokens idents := mapM_eq_ok_iff.mp hidents
    cases hsystems : resolveSystems db m idents with
    | error e =>
      obtain ⟨before, i, after, first, scope, foreign, -⟩ :=
        resolveSystems_eq_error_iff.mp hsystems
      exact .inr ⟨_, .scope shape names first scope foreign⟩
    | ok systems =>
      -- Nothing is wrong any more but that there may be no system.
      obtain ⟨hscope, -⟩ := resolveSystems_eq_ok_iff.mp hsystems
      obtain ⟨hidents, hmembers⟩ := forall_checked_iff.mp hscope
      by_cases hnone : expansion m idents = []
      · exact .inr ⟨_, .noSystem shape names hidents hnone⟩
      · exact .inl ⟨_, .intro shape names hidents hmembers hnone⟩

theorem parseClause_eq_ok_iff : parseClause db m clause = .ok d ↔ Accepts db m clause d := by
  refine ⟨fun h => ?_, Accepts.parseClause_eq⟩
  obtain ⟨d', hd⟩ | ⟨e, he⟩ := accepts_or_rejects db m clause
  · obtain rfl := Except.ok.inj (h.symm.trans hd.parseClause_eq)
    exact hd
  · cases h.symm.trans he.parseClause_eq

theorem parseClause_eq_error_iff :
    parseClause db m clause = .error e ↔ Rejects db m clause e := by
  refine ⟨fun h => ?_, Rejects.parseClause_eq⟩
  obtain ⟨d, hd⟩ | ⟨e', he⟩ := accepts_or_rejects db m clause
  · cases h.symm.trans hd.parseClause_eq
  · obtain rfl := Except.error.inj (h.symm.trans he.parseClause_eq)
    exact he

/-- **A clause is read in one way only.** It is accepted as one definition or rejected with one
error, and not both. -/
theorem accepts_xor_rejects (db : Database) (m : Membership) (clause : List Char) :
    Xor (∃! d, Accepts db m clause d) (∃! e, Rejects db m clause e) := by
  simp only [← parseClause_eq_ok_iff, ← parseClause_eq_error_iff]
  cases parseClause db m clause with
  | ok d => exact .inl ⟨⟨d, rfl, fun d' hd => (Except.ok.inj hd).symm⟩, by simp [ExistsUnique]⟩
  | error e =>
    exact .inr ⟨⟨e, rfl, fun e' he => (Except.error.inj he).symm⟩, by simp [ExistsUnique]⟩

/-! ### Definition texts -/

theorem Rejects.ne_emptyDefinition (h : Rejects db m clause e) : e ≠ .emptyDefinition := by
  cases h with
  | ident shape names unread =>
    -- A token that does not read is reported as an invalid identifier.
    rintro rfl
    unfold Ident.parseChars at unread
    split at unread <;> cases unread
  | _ => exact Error.noConfusion

/-- What is wrong with a clause is the fault of the request. -/
theorem Rejects.isRequest (h : Rejects db m clause e) : e.kind.isRequest = true := by
  cases h with
  | ident shape names unread =>
    unfold Ident.parseChars at unread
    split at unread
    next => cases unread
    next =>
      obtain rfl := Except.error.inj unread
      rfl
  | _ => rfl

theorem clauses_eq_nil_iff {text : List Char} :
    clauses text = [] ↔ ∀ part ∈ Text.parts clauseSeparator text, part = [] := by
  unfold clauses
  simp

theorem parse_of_clauses_eq_nil {text : String} (h : clauses text.toList = []) :
    parse db m text = .error .emptyDefinition := by
  unfold parse
  rw [h]

theorem parse_of_clauses_ne_nil {text : String} (h : clauses text.toList ≠ []) :
    parse db m text = (clauses text.toList).mapM (parseClause db m) := by
  unfold parse
  split
  next hnil => exact absurd hnil h
  next => rfl

theorem parse_eq_ok_iff {text : String} {ds : List Definition} : parse db m text = .ok ds ↔
    clauses text.toList ≠ [] ∧ List.Forall₂ (Accepts db m) (clauses text.toList) ds := by
  by_cases hnil : clauses text.toList = []
  · rw [parse_of_clauses_eq_nil hnil]
    simp [hnil]
  · rw [parse_of_clauses_ne_nil hnil, mapM_eq_ok_iff]
    simp only [parseClause_eq_ok_iff, ne_eq, hnil, not_false_eq_true, true_and]

theorem parse_eq_error_iff {text : String} : parse db m text = .error e ↔
    (clauses text.toList = [] ∧ e = .emptyDefinition) ∨
      ∃ before clause after ds, clauses text.toList = before ++ clause :: after ∧
        List.Forall₂ (Accepts db m) before ds ∧ Rejects db m clause e := by
  -- Without clauses there is one error; with some it is that of the first clause refused.
  by_cases hnil : clauses text.toList = []
  · rw [parse_of_clauses_eq_nil hnil]
    simp [hnil, eq_comm]
  · rw [parse_of_clauses_ne_nil hnil, mapM_eq_error_iff]
    simp only [parseClause_eq_ok_iff, parseClause_eq_error_iff, hnil, false_and, false_or]

theorem isRequest_of_parse_eq_error {text : String} (h : parse db m text = .error e) :
    e.kind.isRequest = true := by
  rcases parse_eq_error_iff.mp h with ⟨-, rfl⟩ | ⟨_, _, _, _, -, -, hrejects⟩
  · rfl
  · exact hrejects.isRequest

theorem parse_eq_emptyDefinition_iff {text : String} :
    parse db m text = .error .emptyDefinition ↔ clauses text.toList = [] := by
  rw [parse_eq_error_iff]
  refine ⟨?_, ?_⟩
  · rintro (⟨hnil, -⟩ | ⟨_, _, _, _, -, -, hrejects⟩)
    · exact hnil
    · -- No refused clause has this error.
      exact absurd rfl hrejects.ne_emptyDefinition
  · intro hnil
    exact .inl ⟨hnil, rfl⟩

/-- The parts that are not blank are the clauses. -/
theorem filter_ne_nil_eq_clauses {text : String} {parts : List (List Char)}
    (h : Text.Cut clauseSeparator text.toList parts) :
    parts.filter (· ≠ []) = clauses text.toList := by
  rw [← Text.cut_iff.mp h]
  exact List.filter_congr fun part _ => by cases part <;> rfl

/-- **The reading of a definition text.** The text is cut into parts in one way. Reading it fails as
empty when all its parts are blank. Otherwise it yields one definition for each part that is not
blank, in order, as this clause is accepted, or else the error with which the first clause is
rejected that is not accepted; and every clause is accepted as one definition or rejected with one
error. -/
theorem parse_iff_grammar (db : Database) (m : Membership) (text : String) :
    (∃! parts, Text.Cut clauseSeparator text.toList parts) ∧
    (∀ parts, Text.Cut clauseSeparator text.toList parts →
      (parse db m text = .error .emptyDefinition ↔ ∀ part ∈ parts, part = []) ∧
      (∀ ds, parse db m text = .ok ds ↔
        (∃ part ∈ parts, part ≠ []) ∧ List.Forall₂ (Accepts db m) (parts.filter (· ≠ [])) ds) ∧
      ∀ e, parse db m text = .error e ↔
        ((∀ part ∈ parts, part = []) ∧ e = .emptyDefinition) ∨
          ∃ before clause after ds, parts.filter (· ≠ []) = before ++ clause :: after ∧
            List.Forall₂ (Accepts db m) before ds ∧ Rejects db m clause e) ∧
    ∀ clause, Xor (∃! d, Accepts db m clause d) (∃! e, Rejects db m clause e) := by
  refine ⟨⟨_, Text.cut_parts _ _, fun _ h => (Text.cut_iff.mp h).symm⟩, fun parts hcut => ?_,
    accepts_xor_rejects db m⟩
  -- The text is blank when no part is left as a clause.
  have hblank : (∀ part ∈ parts, part = []) ↔ clauses text.toList = [] := by
    rw [clauses_eq_nil_iff, Text.cut_iff.mp hcut]
  have hclause : (∃ part ∈ parts, part ≠ []) ↔ clauses text.toList ≠ [] := by
    rw [ne_eq, ← hblank]
    push Not
    rfl
  rw [hblank, hclause, filter_ne_nil_eq_clauses hcut]
  exact ⟨parse_eq_emptyDefinition_iff, fun ds => parse_eq_ok_iff, fun e => parse_eq_error_iff⟩

/-- A group with two members. -/
def sampleMembership : Membership :=
  Membership.empty.insert ⟨"ABCD-EFGH", 7⟩ [⟨"ABCD-EFGH", 12⟩, ⟨"ABCD-EFGH", 3⟩]

/-- Of a blank part and a clause with an override, a system and its group, one definition is read.
A second clause that overrides the method with none of the five is the error of the text. -/
theorem parse_iff_grammar_sample :
    Text.Cut clauseSeparator " _ MAX ~ABCD-EFGH.03~ABCD-EFGH.GROUP.7~ P.s~f".toList
      [[], "MAX ~ABCD-EFGH.03~ABCD-EFGH.GROUP.7~ P.s~f".toList] ∧
    Accepts { id := "ABCD-EFGH" } sampleMembership
      "MAX ~ABCD-EFGH.03~ABCD-EFGH.GROUP.7~ P.s~f".toList
      ⟨some .max, [⟨"ABCD-EFGH", 3⟩, ⟨"ABCD-EFGH", 12⟩], "P.s", "f"⟩ ∧
    parse { id := "ABCD-EFGH" } sampleMembership
        " _ MAX ~ABCD-EFGH.03~ABCD-EFGH.GROUP.7~ P.s~f" =
      .ok [⟨some .max, [⟨"ABCD-EFGH", 3⟩, ⟨"ABCD-EFGH", 12⟩], "P.s", "f"⟩] ∧
    parse { id := "ABCD-EFGH" } sampleMembership
        "MAX ~ABCD-EFGH.03~ABCD-EFGH.GROUP.7~ P.s~f_median~ABCD-EFGH.1~C~f" =
      .error (.invalidMethod "median") := by
  have hcut : Text.Cut clauseSeparator " _ MAX ~ABCD-EFGH.03~ABCD-EFGH.GROUP.7~ P.s~f".toList
      [[], "MAX ~ABCD-EFGH.03~ABCD-EFGH.GROUP.7~ P.s~f".toList] :=
    Text.cut_iff.mpr (by decide +kernel)
  have hcut' : Text.Cut clauseSeparator
      "MAX ~ABCD-EFGH.03~ABCD-EFGH.GROUP.7~ P.s~f_median~ABCD-EFGH.1~C~f".toList
      ["MAX ~ABCD-EFGH.03~ABCD-EFGH.GROUP.7~ P.s~f".toList, "median~ABCD-EFGH.1~C~f".toList] :=
    Text.cut_iff.mpr (by decide +kernel)
  have hshape : Shape "MAX ~ABCD-EFGH.03~ABCD-EFGH.GROUP.7~ P.s~f".toList (some .max)
      ["ABCD-EFGH.03".toList, "ABCD-EFGH.GROUP.7".toList] "P.s".toList "f".toList := by
    refine ⟨⟨Method.max.name.toList :: _, Text.cut_iff.mpr ?_, .override⟩, by decide, by decide,
      by decide⟩
    decide +kernel
  have hnames : Names ["ABCD-EFGH.03".toList, "ABCD-EFGH.GROUP.7".toList]
      [.system ⟨"ABCD-EFGH", 3⟩, .group ⟨"ABCD-EFGH", 7⟩] :=
    .cons (by decide +kernel) (.cons (by decide +kernel) .nil)
  -- With the shape and the identifiers, what is left to check of the clause is a matter of its
  -- systems.
  have haccepts : Accepts { id := "ABCD-EFGH" } sampleMembership
      "MAX ~ABCD-EFGH.03~ABCD-EFGH.GROUP.7~ P.s~f".toList
      ⟨some .max, [⟨"ABCD-EFGH", 3⟩, ⟨"ABCD-EFGH", 12⟩], "P.s", "f"⟩ :=
    .intro hshape hnames (by decide) (by decide) (by decide)
  have htokens : Text.Cut tokenSeparator "median~ABCD-EFGH.1~C~f".toList
      ["median".toList, "ABCD-EFGH.1".toList, "C".toList, "f".toList] :=
    Text.cut_iff.mpr (by decide +kernel)
  have hrejects : Rejects { id := "ABCD-EFGH" } sampleMembership "median~ABCD-EFGH.1~C~f".toList
      (.invalidMethod "median") :=
    .method htokens (by decide) fun k => by cases k <;> decide
  obtain ⟨-, hreading, -⟩ := parse_iff_grammar { id := "ABCD-EFGH" } sampleMembership
    " _ MAX ~ABCD-EFGH.03~ABCD-EFGH.GROUP.7~ P.s~f"
  obtain ⟨-, hreading', -⟩ := parse_iff_grammar { id := "ABCD-EFGH" } sampleMembership
    "MAX ~ABCD-EFGH.03~ABCD-EFGH.GROUP.7~ P.s~f_median~ABCD-EFGH.1~C~f"
  refine ⟨hcut, haccepts, ((hreading _ hcut).2.1 _).mpr ⟨?_, .cons haccepts .nil⟩,
    ((hreading' _ hcut').2.2 _).mpr (.inr ⟨_, _, [], _, rfl, .cons haccepts .nil, hrejects⟩)⟩
  exact ⟨_, List.mem_cons_of_mem _ List.mem_cons_self, by decide⟩

end MetricSeries.Definition
