import CodeMetrics.Json.Quote

/-!
Strings written between quotes and read back. Every character is written as one piece of the string,
which stands for that character again.
-/

namespace CodeMetrics.Json

/-- A piece that is read as one character. -/
def Stands (piece : Piece) (char : Char) : Prop :=
  ∀ more, joinPieces (piece :: more) = (joinPieces more).map (char :: ·)

/-- A text that is read as one piece, whatever follows it. -/
def Spells (text : List Char) (piece : Piece) : Prop :=
  ∀ rest, pieces (text ++ rest) = (pieces rest).map fun more => (piece :: more.1, more.2)

theorem stands_char (char : Char) : Stands (.char char) char := fun _ => rfl

theorem stands_control {char : Char} (control : char.toNat < 32) :
    Stands (.unit char.toNat) char := by
  intro more
  have low : char.toNat < 0xd800 ∨ 0xe000 ≤ char.toNat := .inl (by omega)
  rw [joinPieces.eq_def]
  dsimp only
  rw [if_pos low, Char.ofNat_toNat]

theorem spells_letter {letter char : Char} (escape : escape? letter = some char)
    (other : letter ≠ 'u') : Spells ['\\', letter] (.char char) := by
  intro rest
  rw [List.cons_append, List.cons_append, List.nil_append, pieces]
  · rw [escape]
    cases pieces rest <;> rfl
  · intro a b c d more same
    exact absurd same other

theorem hexNumber_control :
    ∀ code < 32, hexNumber? ['0', '0', hexDigit (code / 16), hexDigit (code % 16)] = some code := by
  decide

theorem spells_control {char : Char} (control : char.toNat < 32) :
    Spells ['\\', 'u', '0', '0', hexDigit (char.toNat / 16), hexDigit (char.toNat % 16)]
      (.unit char.toNat) := by
  intro rest
  simp only [List.cons_append, List.nil_append, pieces, hexNumber_control _ control]
  cases pieces rest <;> rfl

theorem spells_plain {char : Char} (quote : char ≠ '"') (backslash : char ≠ '\\')
    (printable : ¬char.toNat < 32) : Spells [char] (.char char) := by
  intro rest
  rw [List.cons_append, List.nil_append, pieces, if_neg printable]
  · exact quote
  · exact fun _ _ _ _ _ same => absurd same backslash
  · exact fun _ _ same => absurd same backslash

theorem spells_escapeChar (char : Char) :
    ∃ piece, Stands piece char ∧ Spells (escapeChar char) piece := by
  have named {letter : Char} (code : Nat) (same : char.toNat = code)
      (escape : escape? letter = some (Char.ofNat code)) (other : letter ≠ 'u') :
      ∃ piece, Stands piece char ∧ Spells ['\\', letter] piece := by
    have found : char = Char.ofNat code := by rw [← same, Char.ofNat_toNat]
    exact ⟨.char char, stands_char char, spells_letter (found ▸ escape) other⟩
  rw [escapeChar]
  split
  · rename_i same
    exact ⟨.char char, stands_char char, spells_letter (by rw [same]; rfl) (by decide)⟩
  split
  · rename_i same
    exact ⟨.char char, stands_char char, spells_letter (by rw [same]; rfl) (by decide)⟩
  split
  · exact named 0x08 ‹_› rfl (by decide)
  split
  · exact named 0x09 ‹_› rfl (by decide)
  split
  · exact named 0x0a ‹_› rfl (by decide)
  split
  · exact named 0x0c ‹_› rfl (by decide)
  split
  · exact named 0x0d ‹_› rfl (by decide)
  split
  · rename_i control
    exact ⟨.unit char.toNat, stands_control control, spells_control control⟩
  · exact ⟨.char char, stands_char char, spells_plain ‹_› ‹_› ‹_›⟩

theorem unquote_quoted (chars rest : List Char) :
    ∃ found, pieces (chars.flatMap escapeChar ++ '"' :: rest) = some (found, rest) ∧
      joinPieces found = some chars := by
  induction chars with
  | nil => exact ⟨[], rfl, rfl⟩
  | cons char chars ih =>
      obtain ⟨found, read, joined⟩ := ih
      obtain ⟨piece, stands, spells⟩ := spells_escapeChar char
      refine ⟨piece :: found, ?_, ?_⟩
      · rw [List.flatMap_cons, List.append_assoc, spells, read]
        rfl
      · rw [stands, joined]
        rfl

/-- A written string is read up to its closing quote. -/
theorem unquote?_written (text : String) (rest : List Char) :
    unquote? (text.toList.flatMap escapeChar ++ '"' :: rest) = some (text, rest) := by
  obtain ⟨found, read, joined⟩ := unquote_quoted text.toList rest
  simp [unquote?, read, joined]

end CodeMetrics.Json
