import MetricSeries.Proofs.Json.Numbers
import MetricSeries.Proofs.Json.Strings

/-!
# Written values are read back

What `render` writes, `read?` reads back as the same value: repeated keys, the order of members,
the form of numbers and literals without a text included (`read?_render`). The only condition is
that the number literals of the value are well formed.

The reader of values has a bound for its depth and for the number of items, and each level and each
item takes a character at least. So the induction is on the bound, for every value whose text is
shorter (`value?_renderChars`); the items of an array and the members of an object are read by
induction on their number, from what the bound below says of each of them (`items?_renderItems`,
`members?_renderMembers`).
-/

namespace MetricSeries.Json

variable {j v : Json} {vs : List Json} {m : Option String × Json}
  {ms : List (Option String × Json)} {rest : List Char}
  {item : List Char → Option (Json × List Char)}

/-- **A value is well formed** if its number literals are. -/
inductive WellFormed : Json → Prop where
  | null : WellFormed .null
  | bool (b : Bool) : WellFormed (.bool b)
  | number {n : Numeral} (h : n.WellFormed) : WellFormed (.number n)
  | string (s : Option String) : WellFormed (.string s)
  | array {items : List Json} (h : ∀ v ∈ items, WellFormed v) : WellFormed (.array items)
  | object {members : List (Option String × Json)} (h : ∀ m ∈ members, WellFormed m.2) :
      WellFormed (.object members)

/-! ### Heads -/

theorem skipSpace_cons {c : Char} {cs : List Char} (h : isSpace c = false) :
    skipSpace (c :: cs) = c :: cs :=
  List.dropWhile_cons_of_neg (by simp [h])

theorem isSpace_of_isDigit {c : Char} (h : Text.isDigit c = true) : isSpace c = false := by
  have hspace : c ≠ ' ' := ne_of_isDigit h (by decide)
  have htab : c ≠ '\t' := ne_of_isDigit h (by decide)
  have hline : c ≠ '\n' := ne_of_isDigit h (by decide)
  have hreturn : c ≠ '\r' := ne_of_isDigit h (by decide)
  simp [isSpace, hspace, htab, hline, hreturn]

/-- A value starts with no space and with no closing bracket. -/
theorem WellFormed.renderChars_head (h : j.WellFormed) :
    ∃ c cs, renderChars j = c :: cs ∧ isSpace c = false ∧ c ≠ ']' := by
  -- Every kind of value has a first character of its own, and none of them is a space or the end of
  -- an array.
  cases h with
  | null => exact ⟨'n', _, rfl, by decide⟩
  | bool b => cases b with
    | true => exact ⟨'t', _, rfl, by decide⟩
    | false => exact ⟨'f', _, rfl, by decide⟩
  | number h =>
    obtain ⟨c, cs, hcs, rfl | hdigit⟩ := h.text_head
    · exact ⟨'-', cs, hcs, by decide⟩
    · exact ⟨c, cs, hcs, isSpace_of_isDigit hdigit, ne_of_isDigit hdigit rfl⟩
  | string s => exact ⟨'"', _, stringText_eq s, by decide⟩
  | @array items h => cases items <;> exact ⟨'[', _, rfl, by decide⟩
  | @object members h => cases members <;> exact ⟨'\x7b', _, rfl, by decide⟩

/-- White space in front of a value is skipped, and there is none. -/
theorem WellFormed.skipSpace_renderChars (h : j.WellFormed) (rest : List Char) :
    skipSpace (renderChars j ++ rest) = renderChars j ++ rest := by
  obtain ⟨c, cs, hcs, hspace, -⟩ := h.renderChars_head
  rw [hcs, List.cons_append, skipSpace_cons hspace]

/-! ### What stands behind the first element -/

section

variable {α : Type} (write : α → List Char) (close : Char)

/-- The elements of a list behind the first one, each behind a comma, and the closing bracket. -/
def listed : List α → List Char
  | [] => [close]
  | a :: as => ',' :: (write a ++ listed as)

/-- There are more characters than elements, and more than in any element. -/
theorem length_listed (as : List α) :
    as.length < (listed write close as).length ∧
      ∀ a ∈ as, (write a).length < (listed write close as).length := by
  -- Each element adds its own text and a separator, so the text grows with the count and with every
  -- element.
  induction as with
  | nil => exact ⟨Nat.zero_lt_one, by simp⟩
  | cons b as ih =>
    obtain ⟨hcount, helements⟩ := ih
    have hlength : (listed write close (b :: as)).length =
        (write b).length + (listed write close as).length + 1 := by
      rw [listed, List.length_cons, List.length_append]
    refine ⟨?_, fun a ha => ?_⟩
    · rw [hlength, List.length_cons]
      omega
    · rcases List.mem_cons.mp ha with rfl | ha
      · omega
      · have hlt := helements a ha
        omega

variable {write close}

/-- Neither the comma nor the bracket makes a number longer. -/
theorem endsNumeral_listed (h : EndsNumeral [close]) (as : List α) (rest : List Char) :
    EndsNumeral (listed write close as ++ rest) := by
  cases as with
  | nil => exact h
  | cons a as => rintro c ⟨⟩; decide

end

theorem renderItems_eq (vs : List Json) : renderItems vs = listed renderChars ']' vs := by
  induction vs with
  | nil => rfl
  | cons v vs ih => rw [renderItems, listed, ih]

theorem renderMembers_eq (ms : List (Option String × Json)) :
    renderMembers ms = listed renderMember '\x7d' ms := by
  induction ms with
  | nil => rfl
  | cons m ms ih => rw [renderMembers, listed, ih]

theorem endsNumeral_renderItems (vs : List Json) (rest : List Char) :
    EndsNumeral (renderItems vs ++ rest) := by
  rw [renderItems_eq]
  exact endsNumeral_listed (by rintro c ⟨⟩; decide) vs rest

theorem endsNumeral_renderMembers (ms : List (Option String × Json)) (rest : List Char) :
    EndsNumeral (renderMembers ms ++ rest) := by
  rw [renderMembers_eq]
  exact endsNumeral_listed (by rintro c ⟨⟩; decide) ms rest

theorem renderMember_eq (m : Option String × Json) :
    renderMember m = '"' :: (stringBody m.1 ++ ':' :: renderChars m.2) := by
  rw [renderMember, stringText_eq, List.cons_append]

theorem length_renderMember (m : Option String × Json) :
    (renderChars m.2).length < (renderMember m).length := by
  rw [renderMember_eq, List.length_cons, List.length_append, List.length_cons]
  omega

/-! ### Items and members -/

/-- **A reader reads a value back**, whatever follows that does not make a number longer. -/
def ReadsBack (item : List Char → Option (Json × List Char)) (j : Json) : Prop :=
  ∀ rest, EndsNumeral rest → item (renderChars j ++ rest) = some (j, rest)

theorem items?_renderItems {count : Nat} (hv : ReadsBack item v)
    (hvs : ∀ u ∈ vs, ReadsBack item u) (hcount : vs.length < count) :
    items? item count (renderChars v ++ (renderItems vs ++ rest)) = some (v :: vs, rest) := by
  -- By induction on the values. The count that bounds the recursion goes down by one with each, and
  -- there are more than enough for all of them.
  induction vs generalizing v count with
  | nil =>
    obtain ⟨count, rfl⟩ := Nat.exists_eq_add_one.mpr hcount
    rw [items?, hv _ (endsNumeral_renderItems [] rest)]
    rfl
  | cons u vs ih =>
    obtain ⟨count, rfl⟩ := Nat.exists_eq_add_one.mpr (Nat.zero_lt_of_lt hcount)
    obtain ⟨hu, hvs'⟩ := List.forall_mem_cons.mp hvs
    have hrest := ih hu hvs' (Nat.lt_of_succ_lt_succ hcount)
    rw [items?, hv _ (endsNumeral_renderItems (u :: vs) rest)]
    simp [renderItems, skipSpace, isSpace, hrest]

theorem member?_renderMember (h : ReadsBack item m.2) (hrest : EndsNumeral rest) :
    member? item (renderMember m ++ rest) = some (m, rest) := by
  rw [renderMember_eq, List.cons_append, List.append_assoc, List.cons_append]
  unfold member?
  rw [skipSpace_cons rfl]
  simp [string?_stringBody, skipSpace_cons, isSpace, h rest hrest]

theorem members?_renderMembers {count : Nat} (hm : ReadsBack item m.2)
    (hms : ∀ m' ∈ ms, ReadsBack item m'.2) (hcount : ms.length < count) :
    members? item count (renderMember m ++ (renderMembers ms ++ rest)) = some (m :: ms, rest) := by
  -- As for the items of an array, with a name and a colon before each value.
  induction ms generalizing m count with
  | nil =>
    obtain ⟨count, rfl⟩ := Nat.exists_eq_add_one.mpr hcount
    rw [members?, member?_renderMember hm (endsNumeral_renderMembers [] rest)]
    rfl
  | cons m' ms ih =>
    obtain ⟨count, rfl⟩ := Nat.exists_eq_add_one.mpr (Nat.zero_lt_of_lt hcount)
    obtain ⟨hm', hms'⟩ := List.forall_mem_cons.mp hms
    have hrest := ih hm' hms' (Nat.lt_of_succ_lt_succ hcount)
    rw [members?, member?_renderMember hm (endsNumeral_renderMembers (m' :: ms) rest)]
    simp [renderMembers, skipSpace, isSpace, hrest]

/-! ### Values -/

/-- A number starts like no other value. -/
theorem value?_number {n : Numeral} (h : n.WellFormed) (hrest : EndsNumeral rest) (bound : Nat) :
    value? (bound + 1) (n.text ++ rest) = some (.number n, rest) := by
  have hread := numeral?_text h hrest
  obtain ⟨c, cs, htext, hhead⟩ := h.text_head
  have hne : ∀ {d : Char} {ds : List Char}, d ≠ '-' → Text.isDigit d = false →
      n.text ++ rest ≠ d :: ds := by
    rintro d ds hminus hdigit heq
    rw [htext, List.cons_append] at heq
    obtain ⟨rfl, -⟩ := List.cons.inj heq
    rcases hhead with rfl | hhead
    · exact hminus rfl
    · rw [hhead] at hdigit
      cases hdigit
  have hspace : skipSpace (n.text ++ rest) = n.text ++ rest :=
    (WellFormed.number h).skipSpace_renderChars rest
  unfold value?
  rw [hspace]
  -- The letters, the quote and the brackets that other values start with are out of the question.
  split
  case h_7 =>
    rw [hread]
    rfl
  all_goals next heq => exact absurd heq (hne (by decide) rfl)

/-- Behind an opening bracket stand items, unless the array is closed at once. -/
theorem value?_bracket {bound : Nat} {cs : List Char}
    (h : ∀ rest, skipSpace cs ≠ ']' :: rest) :
    value? (bound + 1) ('[' :: cs) =
      (items? (value? bound) bound cs).map fun r => (.array r.1, r.2) := by
  unfold value?
  rw [skipSpace_cons rfl]
  simp only []
  cases items? (value? bound) bound cs <;> rfl

/-- Behind an opening brace stand members, unless the object is closed at once. -/
theorem value?_brace {bound : Nat} {cs : List Char}
    (h : ∀ rest, skipSpace cs ≠ '\x7d' :: rest) :
    value? (bound + 1) ('\x7b' :: cs) =
      (members? (value? bound) bound cs).map fun r => (.object r.1, r.2) := by
  unfold value?
  rw [skipSpace_cons rfl]
  simp only []
  cases members? (value? bound) bound cs <;> rfl

theorem value?_array {bound : Nat} (hv : v.WellFormed) (hitem : ReadsBack (value? bound) v)
    (hitems : ∀ u ∈ vs, ReadsBack (value? bound) u) (hcount : vs.length < bound) :
    value? (bound + 1) (renderChars (.array (v :: vs)) ++ rest) =
      some (.array (v :: vs), rest) := by
  obtain ⟨c, cs, hcs, -, hbracket⟩ := hv.renderChars_head
  rw [renderChars, List.cons_append, List.append_assoc, value?_bracket,
    items?_renderItems hitem hitems hcount]
  · rfl
  · -- The first item does not open with a closing bracket, so this is not read as the empty array.
    rintro rest' heq
    rw [hv.skipSpace_renderChars, hcs] at heq
    exact hbracket (List.cons.inj heq).1

theorem value?_object {bound : Nat} (hmember : ReadsBack (value? bound) m.2)
    (hmembers : ∀ m' ∈ ms, ReadsBack (value? bound) m'.2) (hcount : ms.length < bound) :
    value? (bound + 1) (renderChars (.object (m :: ms)) ++ rest) =
      some (.object (m :: ms), rest) := by
  rw [renderChars, List.cons_append, List.append_assoc, value?_brace,
    members?_renderMembers hmember hmembers hcount]
  · rfl
  · -- The first member opens with a quote, so this is not read as the empty object.
    rintro rest' heq
    rw [renderMember_eq, List.cons_append, skipSpace_cons rfl] at heq
    cases heq

/-- **Values are read back**, if the bound is greater than the length of their text. -/
theorem value?_renderChars {bound : Nat} (h : j.WellFormed)
    (hbound : (renderChars j).length < bound) : ReadsBack (value? bound) j := by
  induction bound generalizing j with
  | zero => omega
  | succ bound ih =>
    intro rest hrest
    cases h with
    | null => rfl
    | bool b => cases b <;> rfl
    | number h => exact value?_number h hrest bound
    | string s =>
      rw [renderChars, stringText_eq, List.cons_append]
      unfold value?
      rw [skipSpace_cons rfl]
      simp [string?_stringBody]
    | @array items h =>
      cases items with
      | nil => rfl
      | cons v vs =>
        obtain ⟨hv, hvs⟩ := List.forall_mem_cons.mp h
        obtain ⟨hcount, hlengths⟩ := length_listed renderChars ']' vs
        rw [renderChars, renderItems_eq, List.length_cons, List.length_append] at hbound
        -- Every item is shorter than the array, so the bound below is enough for it.
        refine value?_array hv (ih hv (by omega)) (fun u hu => ih (hvs u hu) ?_) (by omega)
        have hlt := hlengths u hu
        omega
    | @object members h =>
      cases members with
      | nil => rfl
      | cons m ms =>
        obtain ⟨hm, hms⟩ := List.forall_mem_cons.mp h
        obtain ⟨hcount, hlengths⟩ := length_listed renderMember '\x7d' ms
        have hfirst := length_renderMember m
        rw [renderChars, renderMembers_eq, List.length_cons, List.length_append] at hbound
        refine value?_object (ih hm (by omega)) (fun m' hm' => ih (hms m' hm') ?_) (by omega)
        have hmember := length_renderMember m'
        have hlt := hlengths m' hm'
        omega

/-- **Written values are read back.** -/
theorem read?_render (h : j.WellFormed) : read? j.render = some j := by
  have hvalue : value? ((renderChars j).length + 1) (renderChars j) = some (j, []) := by
    have hread := value?_renderChars h (Nat.lt_succ_self _) [] (by rintro c ⟨⟩)
    rwa [List.append_nil] at hread
  unfold read? render readChars?
  rw [String.toList_ofList, hvalue]
  rfl

end MetricSeries.Json
