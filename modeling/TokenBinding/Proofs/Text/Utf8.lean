import TokenBinding.Bytes

/-!
# The bytes of a character

What a reader of bytes has to know of UTF-8: a character below 128 is its own only byte, and no byte
of any other character is below 128. So a byte that a format gives a meaning to is never part of
another character.
-/

namespace TokenBinding.Bytes

/-- The UTF-8 bytes of a list of characters. -/
def ofChars (cs : List Char) : Bytes := cs.flatMap String.utf8EncodeChar

/-- The bytes of a text are those of its characters. -/
theorem ofText_eq_ofChars (s : String) : ofText s = ofChars s.toList := rfl

/-- A text is known by its bytes. -/
theorem ofText_inj {s t : String} (h : ofText s = ofText t) : s = t := by
  have read : toText? (ofText s) = some t := by rw [h, toText?_ofText]
  rw [toText?_ofText] at read
  exact Option.some.inj read

theorem ofText_ofList (cs : List Char) : ofText (String.ofList cs) = ofChars cs := by
  rw [ofText_eq_ofChars, String.toList_ofList]

@[simp] theorem ofChars_nil : ofChars [] = [] := rfl

@[simp] theorem ofChars_cons (c : Char) (cs : List Char) :
    ofChars (c :: cs) = String.utf8EncodeChar c ++ ofChars cs := List.flatMap_cons

@[simp] theorem ofChars_append (cs ds : List Char) :
    ofChars (cs ++ ds) = ofChars cs ++ ofChars ds := List.flatMap_append

/-- A character below 128 has itself as its only byte. -/
theorem utf8EncodeChar_of_lt {c : Char} (ascii : c.toNat < 128) :
    String.utf8EncodeChar c = [UInt8.ofNat c.toNat] := by
  have same : c.val.toNat = c.toNat := rfl
  have small : c.val.toNat ≤ 0x7f := by omega
  simp only [String.utf8EncodeChar, if_pos small]
  rfl

/-- The bytes of a character from 128 on are from 128 on. -/
theorem le_toNat_of_mem_utf8EncodeChar {c : Char} (beyond : 128 ≤ c.toNat) {b : UInt8}
    (h : b ∈ String.utf8EncodeChar c) : 128 ≤ b.toNat := by
  have same : c.val.toNat = c.toNat := rfl
  have large : ¬ c.val.toNat ≤ 0x7f := by omega
  have bound : c.val.toNat ≤ 0x10ffff := by
    have valid := c.valid
    simp only [UInt32.isValidChar, Nat.isValidChar] at valid
    omega
  simp only [String.utf8EncodeChar, if_neg large] at h
  split at h
  · simp only [List.mem_cons, List.not_mem_nil, or_false] at h
    rcases h with rfl | rfl <;> simp only [UInt8.toNat_ofNat'] <;> omega
  · split at h
    · simp only [List.mem_cons, List.not_mem_nil, or_false] at h
      rcases h with rfl | rfl | rfl <;> simp only [UInt8.toNat_ofNat'] <;> omega
    · simp only [List.mem_cons, List.not_mem_nil, or_false] at h
      rcases h with rfl | rfl | rfl | rfl <;> simp only [UInt8.toNat_ofNat'] <;> omega

theorem toNat_ofNat_of_lt {n : Nat} (ascii : n < 128) : (Char.ofNat n).toNat = n := by
  have valid : n.isValidChar := .inl (by omega)
  rw [Char.ofNat, dif_pos valid]
  rfl

/-- A byte below 128 is the whole of what its character is encoded as. -/
theorem utf8EncodeChar_ofNat {b : UInt8} (ascii : b.toNat < 128) :
    String.utf8EncodeChar (Char.ofNat b.toNat) = [b] := by
  have value : (Char.ofNat b.toNat).toNat = b.toNat := toNat_ofNat_of_lt ascii
  rw [utf8EncodeChar_of_lt (by omega), value, UInt8.ofNat_toNat]

end TokenBinding.Bytes
