import TokenBinding.Proofs.Except
import TokenBinding.Proofs.Text.Utf8
import TokenBinding.Text.Hex

/-!
# The texts of a byte string in hexadecimal

`Spells` says which bytes a text spells, without regard to how it is read: two digits for each byte,
each of them in either case. A text is read exactly if it spells something, as what it spells
(`decode_eq_ok_iff`); one of these texts is the one that is written (`decode_encode`).

The reader goes along the bytes of the text. A byte that is a digit is a character of its own
(`isDigit_of_value?`), so there is nothing else in a text that is read.
-/

namespace TokenBinding.Text.Hex

/-- The character is the digit for the number, in either case. -/
structure IsDigit (c : Char) (n : Nat) : Prop where
  bound : n < 16
  either : c = digit n ∨ c = (digit n).toUpper

/-- The text has two digits for each of the bytes. -/
inductive Spells : List Char → Bytes → Prop
  | nil : Spells [] []
  | pair {c d : Char} {high low : Nat} {cs : List Char} {bs : Bytes} (first : IsDigit c high)
      (second : IsDigit d low) (rest : Spells cs bs) :
      Spells (c :: d :: cs) (UInt8.ofNat (16 * high + low) :: bs)

/-! ## Digits -/

/-- A byte that has a value as a digit is that digit. -/
theorem isDigit_of_value? {b : UInt8} {n : Nat} (h : value? b = some n) :
    b.toNat < 128 ∧ IsDigit (Char.ofNat b.toNat) n := by
  have low : b.toNat < 128 := by
    apply Nat.lt_of_not_le
    intro beyond
    have decimal : ¬(48 ≤ b.toNat ∧ b.toNat ≤ 57) := by omega
    have lower : ¬(97 ≤ b.toNat ∧ b.toNat ≤ 102) := by omega
    have upper : ¬(65 ≤ b.toNat ∧ b.toNat ≤ 70) := by omega
    simp only [value?, decimal, lower, upper, if_false, reduceCtorEq] at h
  have table : ∀ k < 128, ∀ m ∈ value? (UInt8.ofNat k),
      m < 16 ∧ (Char.ofNat k = digit m ∨ Char.ofNat k = (digit m).toUpper) := by decide
  have entry := table b.toNat low n
  rw [UInt8.ofNat_toNat] at entry
  obtain ⟨bound, either⟩ := entry h
  exact ⟨low, bound, either⟩

/-- A digit has one byte, with the value of the digit. It is no hyphen. -/
theorem IsDigit.plain {c : Char} {n : Nat} (h : IsDigit c n) :
    c.toNat < 128 ∧ value? (UInt8.ofNat c.toNat) = some n ∧ c ≠ '-' := by
  have lower : ∀ m < 16, (digit m).toNat < 128 ∧
      value? (UInt8.ofNat (digit m).toNat) = some m ∧ digit m ≠ '-' := by decide
  have upper : ∀ m < 16, (digit m).toUpper.toNat < 128 ∧
      value? (UInt8.ofNat (digit m).toUpper.toNat) = some m ∧ (digit m).toUpper ≠ '-' := by decide
  rcases h.either with rfl | rfl
  · exact lower n h.bound
  · exact upper n h.bound

/-! ## Texts -/

/-- Bytes that are read are those of a text that spells what is read. -/
theorem exists_spells_of_decodePairs {position : Nat} {digits bs : Bytes}
    (h : decodePairs position digits = .ok bs) :
    ∃ cs, digits = Bytes.ofChars cs ∧ Spells cs bs := by
  induction position, digits using decodePairs.induct generalizing bs with
  | case1 position =>
    cases h
    exact ⟨[], rfl, .nil⟩
  | case2 position b => cases h
  | case3 position high low rest none =>
    simp only [decodePairs, none] at h
    cases h
  | case4 position high low rest m some none =>
    simp only [decodePairs, some, none] at h
    cases h
  | case5 position high low rest m n second first ih =>
    simp only [decodePairs, first, second] at h
    obtain ⟨more, later, rfl⟩ := map_eq_ok h
    obtain ⟨cs, rfl, spells⟩ := ih later
    obtain ⟨highAscii, highDigit⟩ := isDigit_of_value? first
    obtain ⟨lowAscii, lowDigit⟩ := isDigit_of_value? second
    refine ⟨Char.ofNat high.toNat :: Char.ofNat low.toNat :: cs, ?_,
      .pair highDigit lowDigit spells⟩
    rw [Bytes.ofChars_cons, Bytes.ofChars_cons, Bytes.utf8EncodeChar_ofNat highAscii,
      Bytes.utf8EncodeChar_ofNat lowAscii]
    rfl

/-- Pairs of digits that spell bytes are decoded as these. -/
theorem decodePairs_of_spells {cs : List Char} {bs : Bytes} (h : Spells cs bs) (position : Nat) :
    decodePairs position (Bytes.ofChars cs) = .ok bs := by
  induction h generalizing position with
  | nil => rfl
  | pair first second rest ih =>
    obtain ⟨firstAscii, firstValue, -⟩ := first.plain
    obtain ⟨secondAscii, secondValue, -⟩ := second.plain
    rw [Bytes.ofChars_cons, Bytes.ofChars_cons, Bytes.utf8EncodeChar_of_lt firstAscii,
      Bytes.utf8EncodeChar_of_lt secondAscii]
    simp only [List.singleton_append, decodePairs, firstValue, secondValue, ih]
    rfl

/-- There are only digits in a text that spells something. -/
theorem Spells.exists_isDigit {cs : List Char} {bs : Bytes} (h : Spells cs bs) {c : Char}
    (mem : c ∈ cs) : ∃ n, IsDigit c n := by
  induction h with
  | nil => cases mem
  | pair first second rest ih =>
    rcases List.mem_cons.mp mem with rfl | later
    · exact ⟨_, first⟩
    · rcases List.mem_cons.mp later with rfl | later
      · exact ⟨_, second⟩
      · exact ih later

theorem Spells.even {cs : List Char} {bs : Bytes} (h : Spells cs bs) :
    (Bytes.ofChars cs).length = 2 * bs.length := by
  induction h with
  | nil => rfl
  | pair first second rest ih =>
    rw [Bytes.ofChars_cons, Bytes.ofChars_cons, Bytes.utf8EncodeChar_of_lt first.plain.1,
      Bytes.utf8EncodeChar_of_lt second.plain.1]
    simp only [List.singleton_append, List.length_cons, ih]
    omega

/-- A text is read exactly as what it spells. -/
theorem decode_eq_ok_iff {s : String} {bs : Bytes} : decode s = .ok bs ↔ Spells s.toList bs := by
  constructor
  · intro h
    simp only [decode] at h
    split at h
    · cases h
    · obtain ⟨cs, same, spells⟩ := exists_spells_of_decodePairs h
      rw [← Bytes.ofText_ofList] at same
      rwa [Bytes.ofText_inj same, String.toList_ofList]
  · intro spells
    have even : ¬(Bytes.ofText s).length % 2 = 1 := by
      rw [Bytes.ofText_eq_ofChars, spells.even]
      omega
    simp only [decode, if_neg even]
    exact decodePairs_of_spells spells 0

/-- The pair of digits that is written for a byte stands for it. -/
theorem spells_encodeChars (bs : Bytes) : Spells (encodeChars bs) bs := by
  induction bs with
  | nil => exact .nil
  | cons b bs ih =>
    have byte : b.toNat < 256 := b.toNat_lt
    have high : IsDigit (digit (b.toNat / 16)) (b.toNat / 16) := ⟨by omega, .inl rfl⟩
    have low : IsDigit (digit (b.toNat % 16)) (b.toNat % 16) := ⟨by omega, .inl rfl⟩
    have pair := Spells.pair high low ih
    rwa [Nat.div_add_mod, UInt8.ofNat_toNat] at pair

/-- What is written for bytes is read as these bytes. -/
theorem decode_encode (bs : Bytes) : decode (encode bs) = .ok bs := by
  rw [decode_eq_ok_iff, encode, String.toList_ofList]
  exact spells_encodeChars bs

end TokenBinding.Text.Hex
