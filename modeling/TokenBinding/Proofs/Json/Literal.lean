import TokenBinding.Json.Printer
import TokenBinding.Json.Token
import TokenBinding.Proofs.Text.Utf8

/-!
# A text literal is read back

Whatever a text holds, its literal is taken whole and spells that text (`takeLiteral_literal`,
`literal_pieces`). Two kinds of characters stand for themselves in the reading: those that are
written as they are, whose bytes are neither the mark nor the backslash nor control characters, and
those with a short escape. The other control characters are written by number, and a number below
the space is no surrogate.
-/

namespace TokenBinding.Json.Token

/-- The pieces that the literal of a character is taken as. -/
def charPieces (c : Char) : List Piece :=
  if c.toNat < 32 ∧ c.toNat ∉ [8, 9, 10, 12, 13] then [.unit c.toNat]
  else (String.utf8EncodeChar c).map .byte

/-- The pieces that the literal of a text is taken as. -/
def pieces (s : String) : List Piece := s.toList.flatMap charPieces

/-! ## Taking -/

/-- Bytes that mean nothing in a literal are taken as they are. -/
theorem takeLiteral_plain {bs : Bytes} (h : ∀ b ∈ bs, b ≠ 34 ∧ b ≠ 92 ∧ 32 ≤ b.toNat)
    (rest : Bytes) :
    takeLiteral (bs ++ rest) =
      (takeLiteral rest).map fun p => (bs.map .byte ++ p.1, p.2) := by
  induction bs with
  | nil => simp only [List.nil_append, List.map_nil, Option.map_id']
  | cons b bs ih =>
    obtain ⟨mark, backslash, control⟩ := h b List.mem_cons_self
    have later := ih fun b' mem => h b' (List.mem_cons_of_mem b mem)
    rw [List.cons_append, takeLiteral.eq_def]
    simp only [if_neg mark, if_neg backslash, if_neg (Nat.not_lt.mpr control), later,
      Option.map_map, List.map_cons, List.cons_append]
    rfl

/-- A control character is written by its number. -/
theorem takeLiteral_unit {n : Nat} (h : n < 32) (rest : Bytes) :
    takeLiteral (Bytes.ofChars
        ['\\', 'u', '0', '0', hexDigit (n / 16), hexDigit (n % 16)] ++ rest) =
      (takeLiteral rest).map fun p => (.unit n :: p.1, p.2) := by
  have digits : ∀ m < 16,
      String.utf8EncodeChar (hexDigit m) = [UInt8.ofNat (hexDigit m).toNat] := by
    decide
  have unit : ∀ m < 32, unit? 48 48 (UInt8.ofNat (hexDigit (m / 16)).toNat)
      (UInt8.ofNat (hexDigit (m % 16)).toNat) = some m := by decide
  have front : Bytes.ofChars ['\\', 'u', '0', '0'] = [92, 117, 48, 48] := by decide
  have shape : Bytes.ofChars ['\\', 'u', '0', '0', hexDigit (n / 16), hexDigit (n % 16)] =
      [92, 117, 48, 48, UInt8.ofNat (hexDigit (n / 16)).toNat,
        UInt8.ofNat (hexDigit (n % 16)).toNat] := by
    have split := Bytes.ofChars_append ['\\', 'u', '0', '0'] [hexDigit (n / 16), hexDigit (n % 16)]
    rw [front, Bytes.ofChars_cons, Bytes.ofChars_cons, digits (n / 16) (by omega),
      digits (n % 16) (by omega)] at split
    exact split
  rw [shape]
  simp only [List.cons_append, List.nil_append, takeLiteral, unit n h]
  rfl

/-- A character with a short escape is taken as a byte. -/
theorem takeLiteral_named {c : Char} {e x : UInt8}
    (written : Bytes.ofChars (escapeChar c) = [92, e])
    (named : shortEscape? e = some x) (taken : charPieces c = [.byte x]) (rest : Bytes) :
    takeLiteral (Bytes.ofChars (escapeChar c) ++ rest) =
      (takeLiteral rest).map fun p => (charPieces c ++ p.1, p.2) := by
  have unnumbered : e ≠ 117 := by
    rintro rfl
    cases named
  rw [written, taken, List.cons_append, List.cons_append, List.nil_append, takeLiteral.eq_def]
  simp only [if_neg unnumbered, named]
  rfl

/-- A character that is written as itself has no byte that means anything in a literal. -/
theorem plain_of_mem_utf8EncodeChar {c : Char} (mark : c ≠ '"') (backslash : c ≠ '\\')
    (printable : 32 ≤ c.toNat) {b : UInt8} (mem : b ∈ String.utf8EncodeChar c) :
    b ≠ 34 ∧ b ≠ 92 ∧ 32 ≤ b.toNat := by
  by_cases ascii : c.toNat < 128
  · rw [Bytes.utf8EncodeChar_of_lt ascii, List.mem_singleton] at mem
    subst mem
    have value : (UInt8.ofNat c.toNat).toNat = c.toNat := by
      rw [UInt8.toNat_ofNat']
      omega
    refine ⟨?_, ?_, by omega⟩
    · intro same
      rw [same] at value
      exact mark (Char.toNat_inj.mp value.symm)
    · intro same
      rw [same] at value
      exact backslash (Char.toNat_inj.mp value.symm)
  · have high : 128 ≤ b.toNat := Bytes.le_toNat_of_mem_utf8EncodeChar (by omega) mem
    refine ⟨?_, ?_, by omega⟩
    · rintro rfl
      exact absurd high (by decide)
    · rintro rfl
      exact absurd high (by decide)

/-- The literal of a character is taken as its pieces. -/
theorem takeLiteral_escapeChar (c : Char) (rest : Bytes) :
    takeLiteral (Bytes.ofChars (escapeChar c) ++ rest) =
      (takeLiteral rest).map fun p => (charPieces c ++ p.1, p.2) := by
  by_cases mark : c = '"'
  · subst mark
    exact takeLiteral_named (e := 34) (x := 34) (by decide) (by decide) (by decide) rest
  by_cases backslash : c = '\\'
  · subst backslash
    exact takeLiteral_named (e := 92) (x := 92) (by decide) (by decide) (by decide) rest
  by_cases short : c.toNat ∈ [8, 9, 10, 12, 13]
  · have number : Char.ofNat c.toNat = c := Char.ofNat_toNat c
    simp only [List.mem_cons, List.not_mem_nil, or_false] at short
    rcases short with h | h | h | h | h <;> rw [h] at number <;> subst number
    · exact takeLiteral_named (e := 98) (x := 8) (by decide) (by decide) (by decide) rest
    · exact takeLiteral_named (e := 116) (x := 9) (by decide) (by decide) (by decide) rest
    · exact takeLiteral_named (e := 110) (x := 10) (by decide) (by decide) (by decide) rest
    · exact takeLiteral_named (e := 102) (x := 12) (by decide) (by decide) (by decide) rest
    · exact takeLiteral_named (e := 114) (x := 13) (by decide) (by decide) (by decide) rest
  have unnamed : c.toNat ≠ 8 ∧ c.toNat ≠ 12 ∧ c.toNat ≠ 10 ∧ c.toNat ≠ 13 ∧ c.toNat ≠ 9 := by
    simp only [List.mem_cons, List.not_mem_nil, or_false, not_or] at short
    omega
  obtain ⟨h₁, h₂, h₃, h₄, h₅⟩ := unnamed
  by_cases control : c.toNat < 32
  · simp only [escapeChar, if_neg mark, if_neg backslash, if_neg h₁, if_neg h₂, if_neg h₃,
      if_neg h₄, if_neg h₅, if_pos control, charPieces, if_pos (And.intro control short)]
    exact takeLiteral_unit control rest
  · have written : escapeChar c = [c] := by
      simp only [escapeChar, if_neg mark, if_neg backslash, if_neg h₁, if_neg h₂, if_neg h₃,
        if_neg h₄, if_neg h₅, if_neg control]
    have taken : charPieces c = (String.utf8EncodeChar c).map .byte :=
      if_neg fun both => control both.1
    have plain : ∀ b ∈ String.utf8EncodeChar c, b ≠ 34 ∧ b ≠ 92 ∧ 32 ≤ b.toNat :=
      fun _ mem => plain_of_mem_utf8EncodeChar mark backslash (Nat.not_lt.mp control) mem
    rw [written, taken, Bytes.ofChars_cons, Bytes.ofChars_nil, List.append_nil]
    exact takeLiteral_plain plain rest

/-- The literal of a text is taken up to its closing mark. -/
theorem takeLiteral_literal (s : String) (rest : Bytes) :
    takeLiteral (Bytes.ofChars (s.toList.flatMap escapeChar ++ ['"']) ++ rest) =
      some (pieces s, rest) := by
  have chars : ∀ cs : List Char,
      takeLiteral (Bytes.ofChars (cs.flatMap escapeChar ++ ['"']) ++ rest) =
        some (cs.flatMap charPieces, rest) := by
    intro cs
    induction cs with
    | nil =>
      have closing : Bytes.ofChars ['"'] = [34] := by decide
      rw [List.flatMap_nil, List.nil_append, closing, List.cons_append, takeLiteral.eq_def]
      rfl
    | cons c cs ih =>
      rw [List.flatMap_cons, List.append_assoc, Bytes.ofChars_append, List.append_assoc,
        takeLiteral_escapeChar, ih]
      rfl
  exact chars s.toList

/-! ## Spelling -/

/-- Plain bytes spell themselves. -/
theorem spell_bytes (bs : Bytes) (rest : List Piece) :
    spell (bs.map .byte ++ rest) = (spell rest).map (bs ++ ·) := by
  induction bs with
  | nil =>
    rw [List.map_nil, List.nil_append]
    cases spell rest <;> rfl
  | cons b bs ih =>
    rw [List.map_cons, List.cons_append, spell, ih]
    cases spell rest <;> rfl

/-- The pieces of a character spell its bytes. -/
theorem spell_charPieces (c : Char) (rest : List Piece) :
    spell (charPieces c ++ rest) = (spell rest).map (String.utf8EncodeChar c ++ ·) := by
  unfold charPieces
  split
  · next control =>
    have leading : isLeading c.toNat = false := by
      simp only [isLeading, Bool.and_eq_false_iff, decide_eq_false_iff_not]
      omega
    have trailing : isTrailing c.toNat = false := by
      simp only [isTrailing, Bool.and_eq_false_iff, decide_eq_false_iff_not]
      omega
    rw [List.cons_append, List.nil_append, spell.eq_def]
    simp only [leading, trailing, Bool.false_eq_true, if_false, Char.ofNat_toNat]
  · exact spell_bytes (String.utf8EncodeChar c) rest

/-- The pieces of a text spell that text. -/
theorem literal_pieces (s : String) : literal (pieces s) = .ok s := by
  have chars : ∀ cs : List Char, spell (cs.flatMap charPieces) = .ok (Bytes.ofChars cs) := by
    intro cs
    induction cs with
    | nil => rfl
    | cons c cs ih =>
      rw [List.flatMap_cons, spell_charPieces, ih]
      rfl
  have spelled : spell (pieces s) = .ok (Bytes.ofText s) := chars s.toList
  simp only [literal, spelled, Bytes.toText?_ofText]

end TokenBinding.Json.Token
