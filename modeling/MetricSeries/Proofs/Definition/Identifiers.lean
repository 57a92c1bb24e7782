import Mathlib.Data.List.Basic
import MetricSeries.Ident
import MetricSeries.Proofs.Text.Numerals
import MetricSeries.Proofs.Text.Pieces

/-!
# Identifiers as tokens

Which tokens name a system or a group is stated here by a grammar, without reference to how a token
is read (`Ident.Spells`): a database identity, a dot, the mark of a group where it is one, and a
number. Reading agrees with the grammar (`Ident.ofChars?_eq_some_iff`), and as the mark of a group
is no digit, no token names both a system and a group.

The other way round, the grammar has no sign, and it fixes the shape of a database identity. An
identifier with such an identity and a number that is not negative is *nameable*: it has a token of
its own. What a token names is nameable (`Ident.Spells.nameable`), and **the token of a nameable
identifier reads back** (`Ident.Nameable.parse_text`). So writing what was read, and reading that
again, changes nothing, and the written token stands for all the tokens that read alike
(`Ident.parse_exact`).

For systems, `SystemId.Nameable` says the same. Their tokens survive trimming and cutting, and they
hold a dot, so that no method is seen in them (`SystemId.Nameable.trimmed_chars`,
`SystemId.Nameable.separator_not_mem`).
-/

namespace MetricSeries

/-- **A system that has a token**: the syntax of identifiers allows for its database and its
number. -/
structure SystemId.Nameable (s : SystemId) : Prop where
  database : Ident.isIdentity s.database.toList = true
  number : 0 ≤ s.number.toInt

namespace Ident

variable {cs : List Char} {i j : Ident} {s : SystemId} {n : Int64} {token : String}

/-! ### The grammar -/

/-- **A database identity**: four capital letters or digits, a hyphen, and four more. -/
inductive SpellsIdentity : List Char → Prop where
  | intro {front back : List Char} (frontWidth : front.length = 4) (backWidth : back.length = 4)
      (chars : ∀ c ∈ front ++ back, c.isUpper = true ∨ c.isDigit = true) :
      SpellsIdentity (front ++ '-' :: back)

/-- **The number of an identifier**: one or more ASCII digits, with a value of at most
`2 ^ 63 - 1`. -/
structure SpellsNumber (cs : List Char) (n : Int64) : Prop where
  nonneg : 0 ≤ n.toInt
  numeral : Text.NumeralBelow (2 ^ 63) cs n.toInt.toNat

/-- **The tokens of identifiers**, without blank space around them, and what they name. -/
inductive Spells : List Char → Ident → Prop where
  | system {identity digits : List Char} {n : Int64} (hidentity : SpellsIdentity identity)
      (hnumber : SpellsNumber digits n) :
      Spells (identity ++ '.' :: digits) (.system ⟨String.ofList identity, n⟩)
  | group {identity digits : List Char} {n : Int64} (hidentity : SpellsIdentity identity)
      (hnumber : SpellsNumber digits n) :
      Spells (identity ++ '.' :: 'G' :: 'R' :: 'O' :: 'U' :: 'P' :: '.' :: digits)
        (.group ⟨String.ofList identity, n⟩)

/-! ### The characters of a token -/

/-- The characters that the token of a system can hold. -/
def isTokenChar (c : Char) : Bool := isIdentityChar c || c == '-' || c == '.'

/-- The code points of token characters: the hyphen, the dot, digits and capital letters. -/
theorem toNat_of_isTokenChar {c : Char} (h : isTokenChar c = true) :
    c.toNat = 45 ∨ c.toNat = 46 ∨ (48 ≤ c.toNat ∧ c.toNat ≤ 57) ∨
      65 ≤ c.toNat ∧ c.toNat ≤ 90 := by
  have hupper : c.isUpper = decide (c.val ≥ 65 ∧ c.val ≤ 90) := rfl
  simp only [isTokenChar, isIdentityChar, hupper, Char.isDigit, Bool.or_eq_true,
    Bool.and_eq_true, decide_eq_true_eq, beq_iff_eq, UInt32.le_iff_toNat_le] at h
  rcases h with ((h | h) | rfl) | rfl
  · exact .inr (.inr (.inr h))
  · exact .inr (.inr (.inl h))
  · exact .inl rfl
  · exact .inr (.inl rfl)

theorem isBlank_of_isTokenChar {c : Char} (h : isTokenChar c = true) :
    Text.isBlank c = false := by
  have hn := toNat_of_isTokenChar h
  simp only [Text.isBlank, Bool.or_eq_false_iff, Bool.and_eq_false_iff, decide_eq_false_iff_not,
    beq_eq_false_iff_ne]
  omega

theorem ne_of_isTokenChar {c : Char} (h : isTokenChar c = true) : c ≠ '_' ∧ c ≠ '~' := by
  refine ⟨?_, ?_⟩
  · rintro rfl
    exact absurd h (by decide)
  · rintro rfl
    exact absurd h (by decide)

theorem SpellsIdentity.length (h : SpellsIdentity cs) : cs.length = 9 := by
  obtain ⟨hfront, hback, -⟩ := h
  rw [List.length_append, List.length_cons, hfront, hback]

theorem SpellsIdentity.isTokenChar (h : SpellsIdentity cs) :
    ∀ c ∈ cs, isTokenChar c = true := by
  obtain ⟨-, -, hchars⟩ := h
  have hchar : ∀ c, c.isUpper = true ∨ c.isDigit = true → Ident.isTokenChar c = true := by
    intro c hc
    unfold Ident.isTokenChar isIdentityChar
    rw [Bool.or_eq_true_iff.mpr hc]
    rfl
  refine List.forall_mem_append.mpr ⟨fun c hc => ?_, List.forall_mem_cons.mpr ⟨rfl, fun c hc => ?_⟩⟩
  · exact hchar c (hchars c (List.mem_append_left _ hc))
  · exact hchar c (hchars c (List.mem_append_right _ hc))

theorem SpellsNumber.isTokenChar (h : SpellsNumber cs n) : ∀ c ∈ cs, isTokenChar c = true := by
  intro c hc
  unfold Ident.isTokenChar isIdentityChar
  rw [h.numeral.digits c hc, Bool.or_true]
  rfl

theorem Spells.isTokenChar (h : Spells cs i) : ∀ c ∈ cs, isTokenChar c = true := by
  have hmark : ∀ c ∈ ['.', 'G', 'R', 'O', 'U', 'P', '.'], Ident.isTokenChar c = true :=
    List.all_eq_true.mp rfl
  cases h with
  | system hidentity hnumber =>
    refine List.forall_mem_append.mpr ⟨hidentity.isTokenChar, ?_⟩
    exact List.forall_mem_cons.mpr ⟨rfl, hnumber.isTokenChar⟩
  | group hidentity hnumber =>
    refine List.forall_mem_append.mpr ⟨hidentity.isTokenChar, ?_⟩
    exact List.forall_mem_append.mpr ⟨hmark, hnumber.isTokenChar⟩

/-- A token holds the hyphen of the identity that it starts with. -/
theorem Spells.hyphen_mem (h : Spells cs i) : '-' ∈ cs := by
  have hidentity : ∀ {identity : List Char}, SpellsIdentity identity → '-' ∈ identity := by
    rintro _ ⟨-, -, -⟩
    exact List.mem_append_right _ List.mem_cons_self
  cases h with
  | system h _ => exact List.mem_append_left _ (hidentity h)
  | group h _ => exact List.mem_append_left _ (hidentity h)

/-- There is no blank space in a token. -/
theorem Spells.trimmed (h : Spells cs i) : Text.Trimmed cs :=
  Text.trimmed_of_forall fun c hc => isBlank_of_isTokenChar (h.isTokenChar c hc)

/-! ### Reading by the grammar -/

theorem isIdentity_iff : isIdentity cs = true ↔ SpellsIdentity cs := by
  -- The program matches nine characters, and the grammar has two halves of four around the hyphen.
  refine ⟨fun h => ?_, ?_⟩
  · unfold isIdentity at h
    split at h
    next a b c d e f g k =>
      show SpellsIdentity ([a, b, c, d] ++ '-' :: [e, f, g, k])
      refine .intro rfl rfl fun x hx => ?_
      exact Bool.or_eq_true_iff.mp (List.all_eq_true.mp h x hx)
    next => exact absurd h Bool.false_ne_true
  · rintro ⟨hfront, hback, hchars⟩
    obtain ⟨a, b, c, d, rfl⟩ := List.length_eq_four.mp hfront
    obtain ⟨e, f, g, k, rfl⟩ := List.length_eq_four.mp hback
    exact List.all_eq_true.mpr fun x hx => Bool.or_eq_true_iff.mpr (hchars x hx)

theorem number?_eq_some_iff : number? cs = some n ↔ SpellsNumber cs n := by
  have hbound := n.toInt_lt
  unfold number?
  rw [Option.bind_eq_some_iff]
  refine ⟨?_, ?_⟩
  · -- What is read is a natural number, and it is accepted where it fits 64 bits.
    rintro ⟨k, hk, hn⟩
    have hvalue := Text.toInt_of_fitInt64? hn
    have hnat : n.toInt.toNat = k := by rw [hvalue, Int.toNat_natCast]
    refine ⟨hvalue ▸ Int.natCast_nonneg k, Text.numeralBelow_iff.mpr ?_⟩
    exact ⟨hnat.symm ▸ hk, by omega⟩
  · rintro ⟨hnonneg, hnumeral⟩
    refine ⟨_, (Text.numeralBelow_iff.mp hnumeral).1, ?_⟩
    rw [Int.toNat_of_nonneg hnonneg]
    exact Text.fitInt64?_toInt n

/-- **Tokens are read by the grammar.** -/
theorem ofChars?_eq_some_iff : ofChars? cs = some i ↔ Spells cs i := by
  refine ⟨fun h => ?_, fun h => ?_⟩
  · unfold ofChars? at h
    dsimp only at h
    rw [Option.ite_none_right_eq_some] at h
    obtain ⟨hidentity, h⟩ := h
    rw [isIdentity_iff] at hidentity
    have hcs := List.take_append_drop 9 cs
    generalize cs.take 9 = identity at *
    generalize cs.drop 9 = rest at *
    subst hcs
    split at h
    next digits =>
      obtain ⟨n, hn, rfl⟩ := Option.map_eq_some_iff.mp h
      exact .group hidentity (number?_eq_some_iff.mp hn)
    next digits _ =>
      obtain ⟨n, hn, rfl⟩ := Option.map_eq_some_iff.mp h
      exact .system hidentity (number?_eq_some_iff.mp hn)
    next => cases h
  · -- An identity is nine characters long, so that the token is cut in front of the dot.
    cases h with
    | @system identity digits n hidentity hnumber =>
      unfold ofChars?
      simp only [List.take_left' hidentity.length, List.drop_left' hidentity.length,
        isIdentity_iff.mpr hidentity, if_true]
      split
      next heq =>
        -- Digits behind the dot do not spell the mark of a group.
        have hmark := hnumber.numeral.digits 'G' ((List.cons.inj heq).2 ▸ List.mem_cons_self)
        exact absurd hmark (by decide)
      next _ heq =>
        obtain ⟨-, rfl⟩ := List.cons.inj heq
        rw [number?_eq_some_iff.mpr hnumber, Option.map_some]
      next hno => exact absurd rfl (hno digits)
    | group hidentity hnumber =>
      unfold ofChars?
      simp only [List.take_left' hidentity.length, List.drop_left' hidentity.length,
        isIdentity_iff.mpr hidentity, if_true, number?_eq_some_iff.mpr hnumber, Option.map_some]

/-- **No token names two identifiers.** -/
theorem Spells.unique (h : Spells cs i) (h' : Spells cs j) : i = j :=
  Option.some.inj ((ofChars?_eq_some_iff.mpr h).symm.trans (ofChars?_eq_some_iff.mpr h'))

theorem parseChars_eq_ok_iff : parseChars cs = .ok i ↔ ofChars? (Text.trim cs) = some i := by
  unfold parseChars
  cases ofChars? (Text.trim cs) <;> simp

theorem parse_eq_ok_iff : parse token = .ok i ↔ Spells (Text.trim token.toList) i :=
  parseChars_eq_ok_iff.trans ofChars?_eq_some_iff

/-- All other tokens are refused, without the blank space around them. -/
theorem parse_of_not_spells (h : ¬ ∃ i, Spells (Text.trim token.toList) i) :
    parse token = .error (.invalidIdentifier (Text.trimmed token)) := by
  have hnone : ofChars? (Text.trim token.toList) = none :=
    Option.eq_none_iff_forall_ne_some.mpr fun i hi => h ⟨i, ofChars?_eq_some_iff.mp hi⟩
  unfold parse parseChars
  rw [hnone]
  rfl

theorem hyphen_mem_of_parseChars (h : parseChars cs = .ok i) : '-' ∈ cs :=
  Text.mem_of_mem_trim (ofChars?_eq_some_iff.mp (parseChars_eq_ok_iff.mp h)).hyphen_mem

/-! ### Writing by the grammar -/

/-- The number of a system or of a group. -/
def number : Ident → Int64
  | system s => s.number
  | group g => g.number

/-- **A nameable identifier**: the grammar allows for its database and its number. -/
structure Nameable (i : Ident) : Prop where
  database : SpellsIdentity i.database.toList
  number : 0 ≤ i.number.toInt

/-- What a token names is nameable. -/
theorem Spells.nameable (h : Spells cs i) : i.Nameable := by
  cases h with
  | system hidentity hnumber => exact ⟨String.toList_ofList.symm ▸ hidentity, hnumber.nonneg⟩
  | group hidentity hnumber => exact ⟨String.toList_ofList.symm ▸ hidentity, hnumber.nonneg⟩

/-- A number that is not negative is written without a sign. -/
theorem spellsNumber_decimalInt (h : 0 ≤ n.toInt) : SpellsNumber (Text.decimalInt n.toInt) n := by
  have hbound := n.toInt_lt
  have hdecimal : Text.decimalInt n.toInt = Text.decimal n.toInt.toNat := by
    obtain ⟨k, hk⟩ := Int.eq_ofNat_of_zero_le h
    rw [hk]
    rfl
  rw [hdecimal]
  exact ⟨h, Text.numeralBelow_decimal (by omega)⟩

namespace Nameable

variable (h : i.Nameable)

include h

/-- **The token of a nameable identifier** names it. -/
theorem spells : Spells i.chars i := by
  obtain ⟨hdatabase, hnumber⟩ := h
  cases i with
  | system s =>
    have hspells := Spells.system hdatabase (spellsNumber_decimalInt hnumber)
    rwa [String.ofList_toList] at hspells
  | group g =>
    have hspells := Spells.group hdatabase (spellsNumber_decimalInt hnumber)
    rwa [String.ofList_toList] at hspells

/-- **Nameable identifiers read back** as they are written. -/
theorem parse_text : parse i.text = .ok i := by
  unfold text
  rw [parse_eq_ok_iff, String.toList_ofList, h.spells.trimmed.trim_eq]
  exact h.spells

end Nameable

theorem isIdentity_of_ofChars? (h : ofChars? cs = some i) :
    isIdentity i.database.toList = true :=
  isIdentity_iff.mpr (ofChars?_eq_some_iff.mp h).nameable.database

theorem nameable_of_ofChars? (h : ofChars? cs = some (.system s)) : s.Nameable :=
  ⟨isIdentity_of_ofChars? h, (ofChars?_eq_some_iff.mp h).nameable.number⟩

/-- What was read from a token reads back from the token that is written for it. -/
theorem parse_text_of_parse (h : parse token = .ok i) : parse i.text = .ok i :=
  (parse_eq_ok_iff.mp h).nameable.parse_text

/-- **The syntax of identifiers is exact, and writing them is canonical.** A token is read as the
identifier that the grammar says it names, or else refused. No token names both a system and a
group. Every identifier that the grammar allows for is written as a token that reads back, and so is
whatever was read. Hence two tokens that are read are written alike if and only if they name the
same. -/
theorem parse_exact :
    (∀ token i, parse token = .ok i ↔ Spells (Text.trim token.toList) i) ∧
    (∀ token, (¬ ∃ i, Spells (Text.trim token.toList) i) →
      parse token = .error (.invalidIdentifier (Text.trimmed token))) ∧
    (∀ cs s g, Spells cs (.system s) → ¬ Spells cs (.group g)) ∧
    (∀ i : Ident, i.Nameable → parse i.text = .ok i) ∧
    (∀ token i, parse token = .ok i → parse i.text = .ok i) ∧
    ∀ token token' i i', parse token = .ok i → parse token' = .ok i' →
      (i.text = i'.text ↔ i = i') := by
  refine ⟨fun token i => parse_eq_ok_iff, fun token => parse_of_not_spells, ?_,
    fun i => Nameable.parse_text, fun token i => parse_text_of_parse, ?_⟩
  · intro cs s g hsystem hgroup
    cases hsystem.unique hgroup
  · intro token token' i i' hi hi'
    refine ⟨fun htext => ?_, congrArg text⟩
    -- What is written alike is read alike, and reading takes the writing back.
    have hread := parse_text_of_parse hi
    rw [htext, parse_text_of_parse hi'] at hread
    exact (Except.ok.inj hread).symm

/-- The zeros in front of a number and the blank space around a token are not written. A number that
does not fit is refused, and so are the digits of other scripts. -/
theorem parse_exact_padded :
    parse " AB12-CD34.GROUP.007\t" = .ok (.group ⟨"AB12-CD34", 7⟩) ∧
      parse (text (.group ⟨"AB12-CD34", 7⟩)) = .ok (.group ⟨"AB12-CD34", 7⟩) ∧
      parse (text (.system ⟨"AB12-CD34", 7⟩)) = .ok (.system ⟨"AB12-CD34", 7⟩) ∧
      (∀ token ∈ ["AB12-CD34.9223372036854775808", "AB12-CD34.٣"],
        parse token = .error (.invalidIdentifier token)) ∧
      (∀ g, ¬ Spells "AB12-CD34.7".toList (.group g)) ∧
      text (.group ⟨"AB12-CD34", 7⟩) ≠ text (.system ⟨"AB12-CD34", 7⟩) := by
  -- One reading of each kind is enough for all that follows from it.
  obtain ⟨hiff, hrefused, hone, hwritten, hread, halike⟩ := parse_exact
  have hgroup : parse " AB12-CD34.GROUP.007\t" = .ok (.group ⟨"AB12-CD34", 7⟩) := by decide +kernel
  have hsystem : parse "AB12-CD34.7" = .ok (.system ⟨"AB12-CD34", 7⟩) := by decide +kernel
  have hspells : Spells "AB12-CD34.7".toList (.system ⟨"AB12-CD34", 7⟩) := (hiff _ _).mp hsystem
  refine ⟨hgroup, hread _ _ hgroup, hwritten _ hspells.nameable, fun token htoken => ?_,
    fun g => hone _ _ g hspells, fun htext => ?_⟩
  · have htrimmed : ∀ token ∈ ["AB12-CD34.9223372036854775808", "AB12-CD34.٣"],
        Text.trimmed token = token ∧ ofChars? (Text.trim token.toList) = none := by decide +kernel
    obtain ⟨hself, hnone⟩ := htrimmed token htoken
    have herror := hrefused token fun ⟨i, hi⟩ => by
      rw [ofChars?_eq_some_iff.mpr hi] at hnone
      cases hnone
    rwa [hself] at herror
  · cases (halike _ _ _ _ hgroup hsystem).mp htext

end Ident

namespace SystemId.Nameable

variable {s : SystemId}

/-- A system is nameable as an identifier is. -/
theorem ident (h : s.Nameable) : (Ident.system s).Nameable :=
  ⟨Ident.isIdentity_iff.mp h.database, h.number⟩

theorem isTokenChar_of_mem_chars (h : s.Nameable) {c : Char} (hc : c ∈ s.chars) :
    Ident.isTokenChar c = true :=
  h.ident.spells.isTokenChar c hc

theorem trimmed_chars (h : s.Nameable) : Text.Trimmed s.chars := h.ident.spells.trimmed

theorem dot_mem_chars (s : SystemId) : '.' ∈ s.chars := by
  unfold SystemId.chars
  simp

/-- A token holds neither of the two separators of a definition text. -/
theorem separator_not_mem (h : s.Nameable) : '_' ∉ s.chars ∧ '~' ∉ s.chars :=
  ⟨fun hc => (Ident.ne_of_isTokenChar (h.isTokenChar_of_mem_chars hc)).1 rfl,
    fun hc => (Ident.ne_of_isTokenChar (h.isTokenChar_of_mem_chars hc)).2 rfl⟩

/-- **The token of a nameable system reads back** as the system. -/
theorem parseChars_chars (h : s.Nameable) : Ident.parseChars s.chars = .ok (.system s) := by
  rw [Ident.parseChars_eq_ok_iff, h.trimmed_chars.trim_eq]
  exact Ident.ofChars?_eq_some_iff.mpr h.ident.spells

end SystemId.Nameable

end MetricSeries
