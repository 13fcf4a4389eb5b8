import TokenBinding.Json.Token

/-!
# What a document is cut into

The scanner cuts a document into lexemes with blanks between them, and puts a token for each
(`exists_lexeme_of_scan`). The other way round, a literal or a word in front is a token more, as
long as the word is followed by something that ends it, and blanks in front are nothing
(`Literal.scan_append`, `Word.scan_append`, `Blank.scan_append`).

The fuel of the scanner is left behind once and for all: `scan_cons` is the scanner's own equation
without it.
-/

namespace TokenBinding.Json

open Token

/-! ## Literals -/

section Literals

variable {bs rest : Bytes} {pieces : List Piece}

/-- What is taken in one step does not depend on what comes behind. -/
theorem exists_body_of_step {front : Bytes} {x : Piece}
    (step : ∀ more, takeLiteral (front ++ more) =
      (takeLiteral more).map fun p => (x :: p.1, p.2))
    (later : ∀ {pieces : List Piece}, takeLiteral bs = some (pieces, rest) →
      ∃ body, bs = body ++ rest ∧ ∀ more, takeLiteral (body ++ more) = some (pieces, more))
    (h : takeLiteral (front ++ bs) = some (pieces, rest)) :
    ∃ body, front ++ bs = body ++ rest ∧
      ∀ more, takeLiteral (body ++ more) = some (pieces, more) := by
  rw [step, Option.map_eq_some_iff] at h
  obtain ⟨⟨pieces, rest⟩, taken, made⟩ := h
  cases made
  obtain ⟨body, rfl, own⟩ := later taken
  refine ⟨front ++ body, (List.append_assoc ..).symm, ?_⟩
  intro more
  rw [List.append_assoc, step, own, Option.map_some]

/-- A literal is taken up to its closing mark, whatever comes behind. -/
theorem exists_body_of_takeLiteral (h : takeLiteral bs = some (pieces, rest)) :
    ∃ body, bs = body ++ rest ∧ ∀ more, takeLiteral (body ++ more) = some (pieces, more) := by
  induction bs using takeLiteral.induct generalizing pieces with
  | case1 => cases h
  | case2 bs =>
    rw [takeLiteral.eq_def] at h
    cases h
    refine ⟨[34], rfl, fun more => ?_⟩
    rw [List.cons_append, takeLiteral.eq_def]
    rfl
  | case3 => cases h
  | case4 h₁ h₂ h₃ h₄ bs u unit mark ih =>
    -- What is behind the bytes of a piece has no part in how it is taken.
    have step : ∀ more, takeLiteral ([92, 117, h₁, h₂, h₃, h₄] ++ more) =
        (takeLiteral more).map fun p => (.unit u :: p.1, p.2) := by
      intro more
      rw [List.cons_append, takeLiteral.eq_def]
      simp only [if_neg mark, if_true, List.cons_append, List.nil_append, unit]
    exact exists_body_of_step step ih h
  | case5 h₁ h₂ h₃ h₄ bs unit mark =>
    rw [takeLiteral.eq_def] at h
    simp only [if_neg mark, if_true, unit] at h
    cases h
  | case6 bs short mark =>
    rw [takeLiteral.eq_def] at h
    simp only [if_neg mark, if_true] at h
    cases h
  | case7 e bs named x found mark ih =>
    have step : ∀ more, takeLiteral ([92, e] ++ more) =
        (takeLiteral more).map fun p => (.byte x :: p.1, p.2) := by
      intro more
      rw [List.cons_append, takeLiteral.eq_def]
      simp only [if_neg mark, if_true, List.cons_append, List.nil_append, if_neg named, found]
    exact exists_body_of_step step ih h
  | case8 e bs named found mark =>
    rw [takeLiteral.eq_def] at h
    simp only [if_neg mark, if_true, if_neg named, found] at h
    cases h
  | case9 b bs mark backslash control =>
    rw [takeLiteral.eq_def] at h
    simp only [if_neg mark, if_neg backslash, if_pos control] at h
    cases h
  | case10 b bs mark backslash control ih =>
    have step : ∀ more, takeLiteral ([b] ++ more) =
        (takeLiteral more).map fun p => (.byte b :: p.1, p.2) := by
      intro more
      rw [List.cons_append, takeLiteral.eq_def]
      simp only [if_neg mark, if_neg backslash, if_neg control, List.nil_append]
    exact exists_body_of_step step ih h

/-- A literal takes at least the quote that ends it. -/
theorem length_lt_of_takeLiteral (h : takeLiteral bs = some (pieces, rest)) :
    rest.length < bs.length := by
  obtain ⟨body, rfl, own⟩ := exists_body_of_takeLiteral h
  have some_byte : body ≠ [] := by
    rintro rfl
    cases own []
  have positive : 0 < body.length := List.length_pos_iff.mpr some_byte
  rw [List.length_append]
  omega

end Literals

/-! ## The scanner without fuel -/

section Scanner

variable {b : UInt8} {bs rest : Bytes}

/-- A word takes at least one byte. -/
theorem length_dropWhile_of_scalar? {r : Reading Value}
    (word : scalar? (bs.takeWhile isWordByte) = some r) :
    (bs.dropWhile isWordByte).length < bs.length := by
  have parts : bs.takeWhile isWordByte ++ bs.dropWhile isWordByte = bs :=
    List.takeWhile_append_dropWhile
  have some_byte : bs.takeWhile isWordByte ≠ [] := by
    intro none
    rw [none] at word
    cases word
  have positive : 0 < (bs.takeWhile isWordByte).length := List.length_pos_iff.mpr some_byte
  have whole := congrArg List.length parts
  rw [List.length_append] at whole
  omega

/-- With enough fuel, what is left over plays no part. -/
theorem scanWith_congr {n fuel fuel' : Nat} (short : bs.length ≤ n) (enough : n ≤ fuel)
    (enough' : n ≤ fuel') : scanWith fuel bs = scanWith fuel' bs := by
  induction n generalizing bs fuel fuel' with
  | zero =>
    obtain rfl := List.length_eq_zero_iff.mp (Nat.le_zero.mp short)
    cases fuel <;> cases fuel' <;> rfl
  | succ n ih =>
    obtain ⟨fuel, rfl⟩ := Nat.exists_eq_add_one_of_ne_zero (Nat.ne_zero_of_lt enough)
    obtain ⟨fuel', rfl⟩ := Nat.exists_eq_add_one_of_ne_zero (Nat.ne_zero_of_lt enough')
    have next {rest : Bytes} (less : rest.length < bs.length) :
        scanWith fuel rest = scanWith fuel' rest := ih (by omega) (by omega) (by omega)
    cases bs with
    | nil => rfl
    | cons b bs =>
      have behind := next (show bs.length < (b :: bs).length from Nat.lt_succ_self _)
      simp only [scanWith, behind]
      split
      · rfl
      split
      · rfl
      split
      · split
        · next taken =>
          rw [next (Nat.lt_succ_of_lt (length_lt_of_takeLiteral taken))]
        · rfl
      · split
        · next word =>
          rw [next (length_dropWhile_of_scalar? word)]
        · rfl

/-- How the scanner goes on at a byte: a space is passed over, punctuation is a token by itself, a
quote begins a literal, and anything else a word. The scanner is well-founded on the length of its
input, so this is the equation that proofs rewrite by. -/
theorem scan_cons (b : UInt8) (bs : Bytes) :
    scan (b :: bs) =
      if isSpace b then scan bs
      else
        match punctuation? b with
        | some t => (scan bs).map (t :: ·)
        | none =>
          if b = 34 then
            match takeLiteral bs with
            | some (pieces, rest) => (scan rest).map (.text (literal pieces) :: ·)
            | none => none
          else
            match scalar? ((b :: bs).takeWhile isWordByte) with
            | some r => (scan ((b :: bs).dropWhile isWordByte)).map (.scalar r :: ·)
            | none => none := by
  have behind {rest : Bytes} (less : rest.length < (b :: bs).length) :
      scanWith bs.length rest = scan rest :=
    scanWith_congr (Nat.le_refl _) (Nat.le_of_lt_succ less) (Nat.le_refl _)
  rw [scan, List.length_cons, scanWith, behind (Nat.lt_succ_self _)]
  cases punctuation? b with
  | some t => rfl
  | none =>
    by_cases mark : b = 34
    · simp only [if_pos mark]
      cases taken : takeLiteral bs with
      | none => rfl
      | some p => simp only [behind (Nat.lt_succ_of_lt (length_lt_of_takeLiteral taken))]
    · simp only [if_neg mark]
      cases word : scalar? ((b :: bs).takeWhile isWordByte) with
      | none => rfl
      | some r => simp only [behind (length_dropWhile_of_scalar? word)]

end Scanner

/-! ## Lexemes -/

/-- There is nothing but blanks. -/
def Blank (bs : Bytes) : Prop := ∀ b ∈ bs, isSpace b = true

/-- A text literal with its two marks, and what it spells. -/
def Literal (bs : Bytes) (s : Reading String) : Prop :=
  ∃ body pieces, bs = 34 :: body ∧ takeLiteral body = some (pieces, []) ∧ s = literal pieces

/-- A word, and the scalar that it is. -/
def Word (bs : Bytes) (r : Reading Value) : Prop :=
  (∀ b ∈ bs, isWordByte b = true) ∧ scalar? bs = some r

/-- The byte of a token that has one only. -/
def mark? : Token → Option UInt8
  | .beginObject => some 123
  | .endObject => some 125
  | .beginArray => some 91
  | .endArray => some 93
  | .colon => some 58
  | .comma => some 44
  | .text _ => none
  | .scalar _ => none

/-- The text of a token. -/
inductive Lexeme : Token → Bytes → Prop
  | mark {t : Token} {b : UInt8} (h : mark? t = some b) : Lexeme t [b]
  | literal {bs : Bytes} {s : Reading String} (h : Literal bs s) : Lexeme (.text s) bs
  | word {bs : Bytes} {r : Reading Value} (h : Word bs r) : Lexeme (.scalar r) bs

variable {bs rest : Bytes} {b : UInt8} {t : Token} {ts : List Token}

theorem mark?_of_punctuation? (h : punctuation? b = some t) : mark? t = some b := by
  unfold punctuation? at h
  repeat' split at h
  all_goals cases h
  all_goals subst_vars; rfl

/-- A text without tokens is blank. -/
theorem blank_of_scan (h : scan bs = some []) : Blank bs := by
  induction bs with
  | nil => exact nofun
  | cons b bs ih =>
    rw [scan_cons] at h
    split at h
    · next space => exact List.forall_mem_cons.mpr ⟨space, ih h⟩
    repeat' split at h
    all_goals simp only [Option.map_eq_some_iff, reduceCtorEq, and_false, exists_false] at h

/-- The first token of a text stands behind blanks, and the others behind it. -/
theorem exists_lexeme_of_scan (h : scan bs = some (t :: ts)) :
    ∃ before lexeme rest, bs = before ++ (lexeme ++ rest) ∧ Blank before ∧ Lexeme t lexeme ∧
      scan rest = some ts := by
  induction bs with
  | nil => cases h
  | cons b bs ih =>
    rw [scan_cons] at h
    split at h
    · next space =>
      obtain ⟨before, lexeme, rest, rfl, blank, here, behind⟩ := ih h
      exact ⟨b :: before, lexeme, rest, rfl, List.forall_mem_cons.mpr ⟨space, blank⟩, here,
        behind⟩
    split at h
    · next t' found =>
      obtain ⟨ts', behind, made⟩ := Option.map_eq_some_iff.mp h
      cases made
      exact ⟨[], [b], bs, rfl, nofun, .mark (mark?_of_punctuation? found), behind⟩
    split at h
    · next mark =>
      split at h
      · next pieces rest taken =>
        obtain ⟨ts', behind, made⟩ := Option.map_eq_some_iff.mp h
        cases made
        obtain ⟨body, rfl, own⟩ := exists_body_of_takeLiteral taken
        -- The literal ends within its own bytes, whatever is scanned behind it.
        have closed : takeLiteral body = some (pieces, []) := by
          have alone := own []
          rwa [List.append_nil] at alone
        refine ⟨[], 34 :: body, rest, by rw [mark]; rfl, nofun, .literal ?_, behind⟩
        exact ⟨body, pieces, rfl, closed, rfl⟩
      · cases h
    · split at h
      · next r word =>
        obtain ⟨ts', behind, made⟩ := Option.map_eq_some_iff.mp h
        cases made
        exact ⟨[], _, _, List.takeWhile_append_dropWhile.symm, nofun,
          .word ⟨List.all_eq_true.mp List.all_takeWhile, word⟩, behind⟩
      · cases h

/-- A token of one byte is that byte. -/
theorem exists_mark_of_scan (own : mark? t = some b) (h : scan bs = some (t :: ts)) :
    ∃ before rest, bs = before ++ b :: rest ∧ Blank before ∧ scan rest = some ts := by
  obtain ⟨before, lexeme, rest, rfl, blank, here, behind⟩ := exists_lexeme_of_scan h
  cases here with
  | mark other =>
    obtain rfl := Option.some.inj (own.symm.trans other)
    exact ⟨before, rest, rfl, blank, behind⟩
  | literal _ => cases own
  | word _ => cases own

/-! ## A token in front -/

/-- What a word is followed by: nothing, or a byte that is no part of a word. -/
def WordEnds (rest : Bytes) : Prop := ∀ b more, rest = b :: more → isWordByte b = false

theorem wordEnds_nil : WordEnds [] := nofun

theorem wordEnds_cons (h : isWordByte b = false) : WordEnds (b :: rest) := by
  intro b' more same
  cases same
  exact h

/-- A byte of a word is no blank, no punctuation and no mark. -/
theorem wordByte_plain (h : isWordByte b = true) :
    isSpace b = false ∧ punctuation? b = none ∧ b ≠ 34 := by
  have plain : ∀ n < 256, isWordByte (UInt8.ofNat n) = true →
      isSpace (UInt8.ofNat n) = false ∧ (punctuation? (UInt8.ofNat n)).isNone = true ∧
        UInt8.ofNat n ≠ 34 := by decide +kernel
  have byte : UInt8.ofNat b.toNat = b := UInt8.ofNat_toNat
  obtain ⟨solid, unpunctuated, mark⟩ := plain b.toNat b.toNat_lt (byte.symm ▸ h)
  rw [byte] at solid unpunctuated mark
  exact ⟨solid, Option.isNone_iff_eq_none.mp unpunctuated, mark⟩

/-- Punctuation is scanned by itself, whatever is behind it. -/
theorem scan_punctuation (solid : isSpace b = false) (found : punctuation? b = some t)
    (behind : scan rest = some ts) : scan (b :: rest) = some (t :: ts) := by
  rw [scan_cons]
  simp only [solid, Bool.false_eq_true, if_false, found, behind, Option.map_some]

/-- Blanks in front are nothing. -/
theorem Blank.scan_append (h : Blank bs) (rest : Bytes) : scan (bs ++ rest) = scan rest := by
  induction bs with
  | nil => rfl
  | cons b bs ih =>
    obtain ⟨space, blank⟩ := List.forall_mem_cons.mp h
    rw [List.cons_append, scan_cons, if_pos space, ih blank]

/-- A literal in front is a token more. -/
theorem Literal.scan_append {s : Reading String} (h : Literal bs s) (behind : scan rest = some ts) :
    scan (bs ++ rest) = some (.text s :: ts) := by
  obtain ⟨body, pieces, rfl, closed, rfl⟩ := h
  obtain ⟨body', same, own⟩ := exists_body_of_takeLiteral closed
  rw [List.append_nil] at same
  subst same
  have solid : isSpace 34 = false := by decide
  have unpunctuated : punctuation? 34 = none := by decide
  rw [List.cons_append, scan_cons]
  simp only [solid, Bool.false_eq_true, if_false, unpunctuated, if_true, own, behind,
    Option.map_some]

/-- So is a word, if it ends there. -/
theorem Word.scan_append {r : Reading Value} (h : Word bs r) (ends : WordEnds rest)
    (behind : scan rest = some ts) : scan (bs ++ rest) = some (.scalar r :: ts) := by
  obtain ⟨bytes, scalar⟩ := h
  have stop : rest.takeWhile isWordByte = [] ∧ rest.dropWhile isWordByte = rest := by
    cases rest with
    | nil => exact ⟨rfl, rfl⟩
    | cons b more =>
      have other := ends b more rfl
      simp only [List.takeWhile_cons, List.dropWhile_cons, other, Bool.false_eq_true, if_false,
        and_self]
  have taken : (bs ++ rest).takeWhile isWordByte = bs := by
    rw [List.takeWhile_append_of_pos bytes, stop.1, List.append_nil]
  have left : (bs ++ rest).dropWhile isWordByte = rest := by
    rw [List.dropWhile_append_of_pos bytes, stop.2]
  cases bs with
  | nil => cases scalar
  | cons b more =>
    obtain ⟨solid, unpunctuated, mark⟩ := wordByte_plain (bytes b List.mem_cons_self)
    rw [List.cons_append] at taken left ⊢
    rw [scan_cons]
    simp only [solid, Bool.false_eq_true, if_false, unpunctuated, if_neg mark, taken, left, scalar,
      behind, Option.map_some]

/-- Blanks end a word, and so does a byte behind them that is none of a word. -/
theorem Blank.wordEnds (h : Blank bs) (ends : WordEnds rest) : WordEnds (bs ++ rest) := by
  cases bs with
  | nil => exact ends
  | cons b bs =>
    apply wordEnds_cons
    have space : isSpace b = true := h b List.mem_cons_self
    cases word : isWordByte b with
    | false => rfl
    | true =>
      rw [(wordByte_plain word).1] at space
      cases space

end TokenBinding.Json
