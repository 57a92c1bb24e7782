import MetricSeries.Json.Printer
import MetricSeries.Json.Reader

/-!
# Written strings are read back

Every character of a string is written as one piece: as itself, as a letter escape, or by its code
point. The pieces are read back one by one (`readsPiece_escape`), and as only control characters
are written by their code points, no two pieces are taken for the halves of a surrogate pair
(`assemble?_map_piece`). A literal without a text is written as such a half and is read as one
without a text. So strings and keys are read as they were written, whatever follows
(`string?_stringBody`).
-/

namespace MetricSeries.Json

variable {a b c d e : Char} {n : Nat} {cs rest : List Char}

/-! ### Pieces -/

/-- **One piece is read** off the characters ahead, and `rest` is read on. -/
def ReadsPiece (ahead : List Char) (p : Piece) (rest : List Char) : Prop :=
  pieces? ahead = (pieces? rest).map fun r => (p :: r.1, r.2)

/-- A character that needs no escape stands for itself. -/
theorem readsPiece_plain (hquote : c ≠ '"') (hslash : c ≠ '\\') (hcontrol : ¬c.toNat < 0x20) :
    ReadsPiece (c :: rest) (.char c) rest := by
  have hplain : ¬(c == '\\' || decide (c.toNat < 0x20)) = true := by simp [hslash, hcontrol]
  unfold ReadsPiece
  rw [pieces?.eq_5 c rest hquote (fun _ _ _ _ _ h => absurd h hslash) fun _ _ h => absurd h hslash,
    if_neg hplain]
  cases pieces? rest <;> rfl

theorem readsPiece_letter (h : escaped? e = some c) :
    ReadsPiece ('\\' :: e :: rest) (.char c) rest := by
  -- A `u` would be the start of a number.
  have hcode : e ≠ 'u' := by
    rintro rfl
    cases h
  unfold ReadsPiece
  rw [pieces?.eq_4 e rest fun _ _ _ _ _ he => absurd he hcode, h]
  cases pieces? rest <;> rfl

theorem readsPiece_code (h : hexCode? a b c d = some n) :
    ReadsPiece ('\\' :: 'u' :: a :: b :: c :: d :: rest) (.code n) rest := by
  unfold ReadsPiece
  rw [pieces?, h]
  cases pieces? rest <;> rfl

/-! ### Characters -/

/-- The characters that are written as a backslash and a letter or a sign. -/
def lettered : List Char := ['"', '\\', '\x08', '\x0C', '\n', '\r', '\t']

/-- The piece that a character is written as: the control characters without a letter are written
by their numbers. -/
def piece (c : Char) : Piece :=
  if c.toNat < 0x20 ∧ c ∉ lettered then .code c.toNat else .char c

theorem escape_of_not_lettered (h : c ∉ lettered) :
    escape c = if c.toNat < 0x20 then
      ['\\', 'u', '0', '0', hexDigit (c.toNat / 16), hexDigit (c.toNat % 16)] else [c] := by
  simp only [lettered, List.mem_cons, List.not_mem_nil, or_false, not_or] at h
  obtain ⟨h₁, h₂, h₃, h₄, h₅, h₆, h₇⟩ := h
  unfold escape
  rw [if_neg h₁, if_neg h₂, if_neg h₃, if_neg h₄, if_neg h₅, if_neg h₆, if_neg h₇]

/-- The digits that are written for a control character give its number. -/
theorem hexCode?_hexDigit (h : n < 0x20) :
    hexCode? '0' '0' (hexDigit (n / 16)) (hexDigit (n % 16)) = some n := by
  revert n
  decide

/-- **A character is written as its piece.** -/
theorem readsPiece_escape (c : Char) (rest : List Char) :
    ReadsPiece (escape c ++ rest) (piece c) rest := by
  unfold piece
  -- A character is written in one of three ways: by a letter behind a backslash, by its code, or as
  -- it is.
  by_cases hlettered : c ∈ lettered
  · rw [if_neg fun h => h.2 hlettered]
    simp only [lettered, List.mem_cons, List.not_mem_nil, or_false] at hlettered
    rcases hlettered with rfl | rfl | rfl | rfl | rfl | rfl | rfl <;> exact readsPiece_letter rfl
  · rw [escape_of_not_lettered hlettered]
    by_cases hcontrol : c.toNat < 0x20
    · rw [if_pos hcontrol, if_pos ⟨hcontrol, hlettered⟩]
      exact readsPiece_code (hexCode?_hexDigit hcontrol)
    · rw [if_neg hcontrol, if_neg fun h => hcontrol h.1]
      have hquote : c ≠ '"' := by rintro rfl; exact hlettered (by decide)
      have hslash : c ≠ '\\' := by rintro rfl; exact hlettered (by decide)
      exact readsPiece_plain hquote hslash hcontrol

theorem pieces?_flatMap_escape (cs rest : List Char) :
    pieces? (cs.flatMap escape ++ '"' :: rest) = some (cs.map piece, rest) := by
  induction cs with
  | nil => exact pieces?.eq_2 rest
  | cons c cs ih =>
    rw [List.flatMap_cons, List.append_assoc, readsPiece_escape, ih]
    rfl

/-! ### Putting the pieces together -/

/-- The number of a control character is no half of a surrogate pair. -/
theorem assemble?_code (h : n < 0x20) (ps : List Piece) :
    assemble? (.code n :: ps) = (assemble? ps).map (Char.ofNat n :: ·) := by
  have hleading : isLeading n = false := by simp [isLeading]; omega
  have htrailing : isTrailing n = false := by simp [isTrailing]; omega
  -- The next piece is only looked at for the other half.
  cases ps with
  | nil => simp [assemble?, hleading, htrailing]
  | cons p ps => cases p <;> simp [assemble?, hleading, htrailing]

theorem assemble?_map_piece (cs : List Char) : assemble? (cs.map piece) = some cs := by
  induction cs with
  | nil => rfl
  | cons c cs ih =>
    rw [List.map_cons]
    -- Only the control characters without a letter of their own are written by their code.
    by_cases h : c.toNat < 0x20 ∧ c ∉ lettered
    · have hpiece : piece c = .code c.toNat := if_pos h
      rw [hpiece, assemble?_code h.1, ih, Option.map_some, Char.ofNat_toNat]
    · have hpiece : piece c = .char c := if_neg h
      rw [hpiece, assemble?, ih, Option.map_some]

/-! ### String literals -/

/-- A string literal from behind its opening quote. -/
def stringBody (s : Option String) : List Char := (stringText s).tail

theorem stringText_eq (s : Option String) : stringText s = '"' :: stringBody s := by
  cases s <;> rfl

/-- **String literals are read back**, those without a text included. -/
theorem string?_stringBody (s : Option String) (rest : List Char) :
    string? (stringBody s ++ rest) = some (s, rest) := by
  cases s with
  | none => rfl
  | some s =>
    have hbody : stringBody (some s) ++ rest = s.toList.flatMap escape ++ '"' :: rest := by
      simp [stringBody, stringText, quoted]
    unfold string?
    rw [hbody, pieces?_flatMap_escape]
    simp [assemble?_map_piece]

end MetricSeries.Json
