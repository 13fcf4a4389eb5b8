import TokenBinding.Proofs.Text.Utf8
import TokenBinding.Text.Base64
import TokenBinding.Text.Blank

/-!
# Base64 is read back

What is written in either alphabet is read back as the bytes it was written for (`decode_encode`),
so two byte strings have two texts.

Writing turns three bytes into four symbols and reading turns them back, a group at a time, so the
proof is one induction along `encodeSymbols`. Only the last group is read by another path: it may be
short, and it alone may be padded.

The texts are made of symbols and padding only. `IsSymbol` is what the formats around them rely on:
no symbol is blank, and none is a separator of a bundle, of a compound nonce or of a token.
-/

namespace TokenBinding

namespace Text.Base64

variable (α : Alphabet)

/-! ## Symbols -/

/-- A byte that is written for a number. -/
def Alphabet.IsSymbol (b : UInt8) : Prop := ∃ n < 64, α.symbol n = b

theorem Alphabet.value?_symbol : ∀ n < 64, α.value? (α.symbol n) = some n := by
  cases α <;> decide

theorem Alphabet.symbol_ne_pad : ∀ n < 64, α.symbol n ≠ pad := by
  cases α <;> decide

theorem Alphabet.isSymbol_symbol {n : Nat} (h : n < 64) : α.IsSymbol (α.symbol n) := ⟨n, h, rfl⟩

/-- What is written is symbols and padding. -/
theorem mem_encodeSymbols {bs : Bytes} {s : UInt8} (h : s ∈ encodeSymbols α bs) :
    α.IsSymbol s ∨ s = pad := by
  have padding : ∀ {n : Nat}, s ∈ α.padding n → s = pad := by
    intro n mem
    cases α with
    | standard => exact List.eq_of_mem_replicate mem
    | urlSafe => cases mem
  induction bs using encodeSymbols.induct with
  | case1 => cases h
  | case2 a =>
    have := a.toNat_lt
    simp only [encodeSymbols, List.mem_cons] at h
    rcases h with rfl | rfl | h
    · exact .inl (α.isSymbol_symbol (by omega))
    · exact .inl (α.isSymbol_symbol (by omega))
    · exact .inr (padding h)
  | case3 a b =>
    have := a.toNat_lt
    have := b.toNat_lt
    simp only [encodeSymbols, List.mem_cons] at h
    rcases h with rfl | rfl | rfl | h
    · exact .inl (α.isSymbol_symbol (by omega))
    · exact .inl (α.isSymbol_symbol (by omega))
    · exact .inl (α.isSymbol_symbol (by omega))
    · exact .inr (padding h)
  | case4 a b c rest ih =>
    have := a.toNat_lt
    have := b.toNat_lt
    have := c.toNat_lt
    simp only [encodeSymbols, List.mem_cons] at h
    rcases h with rfl | rfl | rfl | rfl | h
    · exact .inl (α.isSymbol_symbol (by omega))
    · exact .inl (α.isSymbol_symbol (by omega))
    · exact .inl (α.isSymbol_symbol (by omega))
    · exact .inl (α.isSymbol_symbol (by omega))
    · exact ih h

/-- The characters that separate the parts of a bundle, of a compound nonce and of a token. -/
def separators : List Char := ['?', ';', '&', '.']

/-- A text in base64 has no blank and no separator in it. -/
theorem not_separator_of_mem_encode {bs : Bytes} {c : Char} (h : c ∈ (encode α bs).toList) :
    isBlank c = false ∧ c ∉ separators := by
  have symbols : ∀ n < 64, isBlank (Char.ofNat (α.symbol n).toNat) = false ∧
      Char.ofNat (α.symbol n).toNat ∉ separators := by
    cases α <;> decide
  simp only [encode, String.toList_ofList, List.mem_map] at h
  obtain ⟨s, mem, rfl⟩ := h
  rcases mem_encodeSymbols α mem with ⟨n, bound, rfl⟩ | rfl
  · exact symbols n bound
  · decide

/-- The bytes of a text in base64 are its symbols. -/
theorem ofText_encode (bs : Bytes) : Bytes.ofText (encode α bs) = encodeSymbols α bs := by
  have ascii : ∀ s ∈ encodeSymbols α bs, String.utf8EncodeChar (Char.ofNat s.toNat) = [s] := by
    have symbols : ∀ n < 64, (α.symbol n).toNat < 128 := by cases α <;> decide
    intro s mem
    refine Bytes.utf8EncodeChar_ofNat ?_
    rcases mem_encodeSymbols α mem with ⟨n, bound, rfl⟩ | rfl
    · exact symbols n bound
    · decide
  rw [Bytes.ofText, encode, String.toList_ofList, List.flatMap_map, List.flatMap_def,
    List.map_congr_left ascii, ← List.flatMap_def, List.flatMap_singleton']

/-! ## Reading -/

/-- A symbol is read as the value that it was written for, wherever it stands. -/
theorem readSymbol_symbol {n : Nat} (h : n < 64) (offset : Nat) :
    readSymbol α offset (α.symbol n) = .ok n := by
  simp only [readSymbol, α.value?_symbol n h]

/-- The three bytes are back that were cut into four numbers. -/
theorem joinQuad_cut (a b c : UInt8) :
    joinQuad (a.toNat / 4) (a.toNat % 4 * 16 + b.toNat / 16) (b.toNat % 16 * 4 + c.toNat / 64)
      (c.toNat % 64) = [a, b, c] := by
  have := a.toNat_lt
  have := b.toNat_lt
  have := c.toNat_lt
  have first : a.toNat / 4 * 4 + (a.toNat % 4 * 16 + b.toNat / 16) / 16 = a.toNat := by omega
  have second : (a.toNat % 4 * 16 + b.toNat / 16) % 16 * 16 +
      (b.toNat % 16 * 4 + c.toNat / 64) / 4 = b.toNat := by omega
  have third : (b.toNat % 16 * 4 + c.toNat / 64) % 4 * 64 + c.toNat % 64 = c.toNat := by omega
  simp only [joinQuad, first, second, third, UInt8.ofNat_toNat]

/-- Symbols in the last group are taken with their numbers. -/
theorem readLastGroup_symbols {ns : List Nat} (h : ∀ n ∈ ns, n < 64) (start index : Nat)
    (rest : Bytes) :
    readLastGroup α start index (ns.map α.symbol ++ rest) =
      (readLastGroup α start (index + ns.length) rest).map
        fun g => ⟨ns.map (fun n => (α.symbol n, n)) ++ g.symbols, g.padding⟩ := by
  induction ns generalizing index with
  | nil => cases read : readLastGroup α start index rest <;> simp [read, Except.map]
  | cons n ns ih =>
    have bound : n < 64 := h n List.mem_cons_self
    have later := ih (fun m mem => h m (List.mem_cons_of_mem n mem)) (index + 1)
    have place : index + 1 + ns.length = index + (ns.length + 1) := by omega
    simp only [List.map_cons, List.cons_append, List.length_cons, readLastGroup,
      α.value?_symbol n bound, if_neg (α.symbol_ne_pad n bound), later, place]
    cases readLastGroup α start (index + (ns.length + 1)) rest <;> rfl

theorem readPadding_replicate (first count : Nat) :
    readPadding first (List.replicate count pad) = .ok count := by
  induction count with
  | zero => rfl
  | succ count ih => simp only [List.replicate_succ, readPadding, ih, if_true, Except.map]

/-- The padding that writing puts there is counted. -/
theorem readLastGroup_padding {index : Nat} (h : 2 ≤ index) (start count : Nat) :
    readLastGroup α start index (α.padding count) = .ok ⟨[], (α.padding count).length⟩ := by
  cases α with
  | urlSafe => rfl
  | standard =>
    cases count with
    | zero => rfl
    | succ count =>
      simp only [Alphabet.padding, List.replicate_succ, readLastGroup, if_true,
        if_neg (Nat.not_lt.mpr h), readPadding_replicate, Except.map, List.length_cons,
        List.length_replicate]

/-- The padding that is written is the padding that is asked for. -/
theorem Alphabet.paddingOk_padding {count : Nat} (h : count ≤ 4) :
    α.PaddingOk count (α.padding (4 - count)).length := by
  cases α with
  | urlSafe => rfl
  | standard =>
    have group : (4 - count + count) % 4 = 0 := by omega
    simpa only [Alphabet.PaddingOk, Alphabet.padding, List.length_replicate] using group

/-- A text of one group is its last group. -/
theorem decodeGroups_of_length_le {symbols : Bytes} (h : symbols.length ≤ 4) (start : Nat) :
    decodeGroups α start symbols =
      (readLastGroup α start 0 symbols).bind (LastGroup.decode α start) := by
  unfold decodeGroups
  split
  · simp only [List.length_cons] at h
    omega
  · rfl

/-- The last group of a text, as it is written for two to four numbers. -/
theorem decodeGroups_last {ns : List Nat} (h : ∀ n ∈ ns, n < 64) (two : 2 ≤ ns.length)
    (four : ns.length ≤ 4) (start : Nat) :
    decodeGroups α start (ns.map α.symbol ++ α.padding (4 - ns.length)) =
      LastGroup.decode α start
        ⟨ns.map fun n => (α.symbol n, n), (α.padding (4 - ns.length)).length⟩ := by
  have short : (ns.map α.symbol ++ α.padding (4 - ns.length)).length ≤ 4 := by
    have padding : (α.padding (4 - ns.length)).length ≤ 4 - ns.length := by
      cases α <;> simp [Alphabet.padding]
    simp only [List.length_append, List.length_map]
    omega
  have index : 2 ≤ 0 + ns.length := by omega
  rw [decodeGroups_of_length_le α short, readLastGroup_symbols α h, readLastGroup_padding α index]
  simp only [Except.map, Except.bind, List.append_nil]

/-- A full group in front of more is four symbols. -/
theorem decodeGroups_quad {a b c d : Nat} (ha : a < 64) (hb : b < 64) (hc : c < 64) (hd : d < 64)
    {rest : Bytes} (more : rest ≠ []) (start : Nat) :
    decodeGroups α start (α.symbol a :: α.symbol b :: α.symbol c :: α.symbol d :: rest) =
      (decodeGroups α (start + 4) rest).map (joinQuad a b c d ++ ·) := by
  obtain ⟨e, rest, rfl⟩ := List.exists_cons_of_ne_nil more
  simp only [decodeGroups, readSymbol_symbol α ha, readSymbol_symbol α hb, readSymbol_symbol α hc,
    readSymbol_symbol α hd, bind, Except.bind, pure, Except.pure]
  cases decodeGroups α (start + 4) (e :: rest) <;> rfl

theorem encodeSymbols_ne_nil {bs : Bytes} (h : bs ≠ []) : encodeSymbols α bs ≠ [] := by
  match bs, h with
  | [_], _ => exact List.cons_ne_nil _ _
  | [_, _], _ => exact List.cons_ne_nil _ _
  | _ :: _ :: _ :: _, _ => exact List.cons_ne_nil _ _

/-- One byte is the whole of its group. -/
theorem decodeGroups_one (a : UInt8) (start : Nat) :
    decodeGroups α start (encodeSymbols α [a]) = .ok [a] := by
  have := a.toNat_lt
  have bound : ∀ n ∈ [a.toNat / 4, a.toNat % 4 * 16], n < 64 := by
    simp only [List.forall_mem_cons, List.not_mem_nil, false_implies, implies_true, and_true]
    omega
  have spare : ¬ a.toNat % 4 * 16 % 16 ≠ 0 := by omega
  have byte : a.toNat / 4 * 4 + a.toNat % 4 * 16 / 16 = a.toNat := by omega
  have padded := α.paddingOk_padding (show 2 ≤ 4 by decide)
  refine (decodeGroups_last α bound (by simp) (by simp) start).trans ?_
  simp only [LastGroup.decode, List.map_cons, List.map_nil, List.length_cons, List.length_nil,
    Nat.zero_add, Nat.reduceAdd, padded, not_true, if_false, if_neg spare, byte,
    UInt8.ofNat_toNat]

/-- So are two. -/
theorem decodeGroups_two (a b : UInt8) (start : Nat) :
    decodeGroups α start (encodeSymbols α [a, b]) = .ok [a, b] := by
  have := a.toNat_lt
  have := b.toNat_lt
  have bound : ∀ n ∈ [a.toNat / 4, a.toNat % 4 * 16 + b.toNat / 16, b.toNat % 16 * 4],
      n < 64 := by
    simp only [List.forall_mem_cons, List.not_mem_nil, false_implies, implies_true, and_true]
    omega
  have spare : ¬ b.toNat % 16 * 4 % 4 ≠ 0 := by omega
  have first : a.toNat / 4 * 4 + (a.toNat % 4 * 16 + b.toNat / 16) / 16 = a.toNat := by omega
  have second : (a.toNat % 4 * 16 + b.toNat / 16) % 16 * 16 + b.toNat % 16 * 4 / 4 = b.toNat := by
    omega
  have padded := α.paddingOk_padding (show 3 ≤ 4 by decide)
  refine (decodeGroups_last α bound (by simp) (by simp) start).trans ?_
  simp only [LastGroup.decode, List.map_cons, List.map_nil, List.length_cons, List.length_nil,
    Nat.zero_add, Nat.reduceAdd, padded, not_true, if_false, if_neg spare, first, second,
    UInt8.ofNat_toNat]

/-- The numbers that three bytes are cut into are below 64. -/
theorem cut_lt (a b c : UInt8) :
    a.toNat / 4 < 64 ∧ a.toNat % 4 * 16 + b.toNat / 16 < 64 ∧
      b.toNat % 16 * 4 + c.toNat / 64 < 64 ∧ c.toNat % 64 < 64 := by
  have := a.toNat_lt
  have := b.toNat_lt
  have := c.toNat_lt
  omega

/-- Three bytes at the end fill their group, and nothing is padded. -/
theorem decodeGroups_three (a b c : UInt8) (start : Nat) :
    decodeGroups α start (encodeSymbols α [a, b, c]) = .ok [a, b, c] := by
  have bound : ∀ n ∈ [a.toNat / 4, a.toNat % 4 * 16 + b.toNat / 16,
      b.toNat % 16 * 4 + c.toNat / 64, c.toNat % 64], n < 64 := by
    simp only [List.forall_mem_cons, List.not_mem_nil, false_implies, implies_true, and_true]
    exact cut_lt a b c
  have unpadded : α.padding 0 = [] := by cases α <;> rfl
  have complete : α.PaddingOk 4 0 := by cases α <;> rfl
  have last := decodeGroups_last α bound (by simp) (by simp) start
  simp only [LastGroup.decode, List.map_cons, List.map_nil, List.length_cons, List.length_nil,
    Nat.zero_add, Nat.reduceAdd, complete, not_true, if_false, joinQuad_cut, Nat.sub_self,
    unpadded, List.append_nil] at last
  exact last

/-- Symbols are read back as the bytes they were written for. -/
theorem decodeGroups_encodeSymbols (bs : Bytes) (start : Nat) :
    decodeGroups α start (encodeSymbols α bs) = .ok bs := by
  induction bs using encodeSymbols.induct generalizing start with
  | case1 => rfl
  | case2 a => exact decodeGroups_one α a start
  | case3 a b => exact decodeGroups_two α a b start
  | case4 a b c rest ih =>
    cases rest with
    | nil => exact decodeGroups_three α a b c start
    | cons d rest =>
      obtain ⟨h₁, h₂, h₃, h₄⟩ := cut_lt a b c
      have more : encodeSymbols α (d :: rest) ≠ [] :=
        encodeSymbols_ne_nil α (List.cons_ne_nil d rest)
      refine (decodeGroups_quad α h₁ h₂ h₃ h₄ more start).trans ?_
      rw [ih, joinQuad_cut]
      rfl

/-- Writing leaves no symbol alone behind the last group. -/
theorem length_encodeSymbols_mod (bs : Bytes) : (encodeSymbols α bs).length % 4 ≠ 1 := by
  induction bs using encodeSymbols.induct with
  | case1 => simp [encodeSymbols]
  | case2 a => cases α <;> simp [encodeSymbols, Alphabet.padding]
  | case3 a b => cases α <;> simp [encodeSymbols, Alphabet.padding]
  | case4 a b c rest ih =>
    simp only [encodeSymbols, List.length_cons]
    omega

/-- A byte string is read back from its text. -/
theorem decode_encode (bs : Bytes) : decode α (encode α bs) = .ok bs := by
  have stray : strayLast? α (encodeSymbols α bs) = none := by
    simp only [strayLast?, if_neg (length_encodeSymbols_mod α bs)]
  rw [decode, ofText_encode, decodeSymbols, stray]
  exact decodeGroups_encodeSymbols α bs 0

/-- Two byte strings have two texts. -/
theorem encode_inj {bs cs : Bytes} (h : encode α bs = encode α cs) : bs = cs := by
  have read : decode α (encode α bs) = .ok cs := by rw [h, decode_encode]
  rw [decode_encode] at read
  exact Except.ok.inj read

end Text.Base64

end TokenBinding
