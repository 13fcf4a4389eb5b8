import TokenBinding.Proofs.Except
import TokenBinding.Proofs.Text.Base64

/-!
# A byte string has one text in base64

Reading accepts nothing but what writing produces (`decode_eq_ok_iff`). Two things could give a byte
string a second text: padding that is left out or put in, and bits of the last symbol that belong to
no byte. Both sit in the last group, and the reader refuses both there; in front of it, four symbols
and three bytes are the same 24 bits.

So the proof goes along the groups. A symbol is known by its number (`symbol_of_value?`), a full
group by its three bytes (`encodeSymbols_joinQuad`), and the last group by the numbers of its
symbols, which leave one number of paddings (`padding_of_paddingOk`).
-/

namespace TokenBinding.Text.Base64

variable {α : Alphabet}

/-! ## Full groups -/

/-- What stands for a number is the symbol of that number. -/
theorem Alphabet.symbol_of_value? {b : UInt8} {n : Nat} (h : α.value? b = some n) :
    n < 64 ∧ α.symbol n = b := by
  have ascii : ∀ k < 128, ∀ m ∈ α.value? (UInt8.ofNat k), m < 64 ∧ α.symbol m = UInt8.ofNat k := by
    cases α <;> decide
  have low : b.toNat < 128 := by
    refine Nat.lt_of_not_le fun beyond => ?_
    have upper : ¬(65 ≤ b.toNat ∧ b.toNat ≤ 90) := by omega
    have lower : ¬(97 ≤ b.toNat ∧ b.toNat ≤ 122) := by omega
    have digit : ¬(48 ≤ b.toNat ∧ b.toNat ≤ 57) := by omega
    have others : b.toNat ≠ 43 ∧ b.toNat ≠ 47 ∧ b.toNat ≠ 45 ∧ b.toNat ≠ 95 := by omega
    cases α <;> simp only [value?, upper, lower, digit, others, if_false, reduceCtorEq] at h
  have plain := ascii b.toNat low n
  rw [UInt8.ofNat_toNat] at plain
  exact plain h

/-- A byte that is read as a value is the symbol of that value. -/
theorem symbol_of_readSymbol {offset n : Nat} {b : UInt8} (h : readSymbol α offset b = .ok n) :
    n < 64 ∧ α.symbol n = b := by
  unfold readSymbol at h
  split at h
  · next value =>
    cases h
    exact Alphabet.symbol_of_value? value
  · cases h

/-- The bytes of four numbers are cut into these numbers again. -/
theorem encodeSymbols_joinQuad {a b c d : Nat} (ha : a < 64) (hb : b < 64) (hc : c < 64)
    (hd : d < 64) (rest : Bytes) :
    encodeSymbols α (joinQuad a b c d ++ rest) =
      α.symbol a :: α.symbol b :: α.symbol c :: α.symbol d :: encodeSymbols α rest := by
  have first : (UInt8.ofNat (a * 4 + b / 16)).toNat = a * 4 + b / 16 :=
    UInt8.toNat_ofNat_of_lt' (show a * 4 + b / 16 < 256 by omega)
  have second : (UInt8.ofNat (b % 16 * 16 + c / 4)).toNat = b % 16 * 16 + c / 4 :=
    UInt8.toNat_ofNat_of_lt' (show b % 16 * 16 + c / 4 < 256 by omega)
  have third : (UInt8.ofNat (c % 4 * 64 + d)).toNat = c % 4 * 64 + d :=
    UInt8.toNat_ofNat_of_lt' (show c % 4 * 64 + d < 256 by omega)
  have cut : (a * 4 + b / 16) / 4 = a ∧ (a * 4 + b / 16) % 4 * 16 + (b % 16 * 16 + c / 4) / 16 = b ∧
      (b % 16 * 16 + c / 4) % 16 * 4 + (c % 4 * 64 + d) / 64 = c ∧ (c % 4 * 64 + d) % 64 = d := by
    omega
  simp only [joinQuad, List.cons_append, List.nil_append, encodeSymbols, first, second, third, cut]

/-! ## The last group -/

theorem eq_replicate_of_readPadding {first n : Nat} {bs : Bytes}
    (h : readPadding first bs = .ok n) : bs = List.replicate n pad := by
  induction bs generalizing n with
  | nil =>
    cases h
    rfl
  | cons b bs ih =>
    simp only [readPadding] at h
    split at h
    · next same =>
      obtain ⟨m, later, rfl⟩ := map_eq_ok h
      rw [List.replicate_succ, ← ih later, same]
    · cases h

/-- What a last group was read from: symbols with their numbers, and then padding, which does not
stand before the third place of the group. -/
theorem exists_numbers_of_readLastGroup {start index : Nat} {bs : Bytes} {g : LastGroup}
    (h : readLastGroup α start index bs = .ok g) :
    ∃ (ns : List Nat) (padding : Nat), (∀ n ∈ ns, n < 64) ∧
      bs = ns.map α.symbol ++ List.replicate padding pad ∧
      g = ⟨ns.map fun n => (α.symbol n, n), padding⟩ ∧ (0 < padding → 2 ≤ index + ns.length) := by
  induction bs generalizing index g with
  | nil =>
    cases h
    exact ⟨[], 0, List.forall_mem_nil _, rfl, rfl, fun some => absurd some (Nat.lt_irrefl 0)⟩
  | cons b bs ih =>
    simp only [readLastGroup] at h
    split at h
    · next same =>
      split at h
      · cases h
      · next third =>
        obtain ⟨count, later, rfl⟩ := map_eq_ok h
        refine ⟨[], count + 1, List.forall_mem_nil _, ?_, rfl, fun _ => Nat.le_of_not_lt third⟩
        rw [eq_replicate_of_readPadding later, same]
        rfl
    · split at h
      · cases h
      · next n value =>
        obtain ⟨g', later, rfl⟩ := map_eq_ok h
        obtain ⟨ns, padding, bound, rfl, rfl, place⟩ := ih later
        obtain ⟨small, rfl⟩ := Alphabet.symbol_of_value? value
        refine ⟨n :: ns, padding, List.forall_mem_cons.mpr ⟨small, bound⟩, rfl, rfl, ?_⟩
        intro some
        have := place some
        show 2 ≤ index + (ns.length + 1)
        omega

/-- In a group of at most four, padding that is admitted is the padding that is written. -/
theorem Alphabet.padding_of_paddingOk {count padding : Nat} (h : α.PaddingOk count padding)
    (two : 2 ≤ count) (four : count + padding ≤ 4) :
    List.replicate padding pad = α.padding (4 - count) := by
  cases α with
  | urlSafe =>
    have none : padding = 0 := h
    rw [none]
    rfl
  | standard =>
    have whole : (padding + count) % 4 = 0 := h
    have rest : padding = 4 - count := by omega
    rw [rest]
    rfl

/-- A group of two symbols is written for its byte, if no bit is left over. -/
theorem encodeSymbols_two {a b : Nat} (ha : a < 64) (hb : b < 64) (spare : b % 16 = 0) :
    encodeSymbols α [UInt8.ofNat (a * 4 + b / 16)] = [α.symbol a, α.symbol b] ++ α.padding 2 := by
  have byte : (UInt8.ofNat (a * 4 + b / 16)).toNat = a * 4 + b / 16 :=
    UInt8.toNat_ofNat_of_lt' (show a * 4 + b / 16 < 256 by omega)
  have cut : (a * 4 + b / 16) / 4 = a ∧ (a * 4 + b / 16) % 4 * 16 = b := by omega
  simp only [encodeSymbols, byte, cut, List.cons_append, List.nil_append]

/-- So is a group of three for its two. -/
theorem encodeSymbols_three {a b c : Nat} (ha : a < 64) (hb : b < 64) (hc : c < 64)
    (spare : c % 4 = 0) :
    encodeSymbols α [UInt8.ofNat (a * 4 + b / 16), UInt8.ofNat (b % 16 * 16 + c / 4)] =
      [α.symbol a, α.symbol b, α.symbol c] ++ α.padding 1 := by
  have first : (UInt8.ofNat (a * 4 + b / 16)).toNat = a * 4 + b / 16 :=
    UInt8.toNat_ofNat_of_lt' (show a * 4 + b / 16 < 256 by omega)
  have second : (UInt8.ofNat (b % 16 * 16 + c / 4)).toNat = b % 16 * 16 + c / 4 :=
    UInt8.toNat_ofNat_of_lt' (show b % 16 * 16 + c / 4 < 256 by omega)
  have cut : (a * 4 + b / 16) / 4 = a ∧ (a * 4 + b / 16) % 4 * 16 + (b % 16 * 16 + c / 4) / 16 = b ∧
      (b % 16 * 16 + c / 4) % 16 * 4 = c := by
    omega
  simp only [encodeSymbols, first, second, cut, List.cons_append, List.nil_append]

/-- A last group that decodes is the one that is written for its bytes. -/
theorem eq_encodeSymbols_of_decode {start padding : Nat} {ns : List Nat} {bytes : Bytes}
    (bound : ∀ n ∈ ns, n < 64) (four : ns.length + padding ≤ 4)
    (place : 0 < padding → 2 ≤ ns.length)
    (h : LastGroup.decode α start ⟨ns.map fun n => (α.symbol n, n), padding⟩ = .ok bytes) :
    ns.map α.symbol ++ List.replicate padding pad = encodeSymbols α bytes := by
  -- No symbols, one, or two with those behind them.
  rcases ns with _ | ⟨a, _ | ⟨b, rest⟩⟩
  · cases h
    cases padding with
    | zero => rfl
    | succ count => exact absurd (place (Nat.succ_pos count)) (by decide)
  · cases h
  · have ha : a < 64 := bound a (by simp)
    have hb : b < 64 := bound b (by simp)
    simp only [LastGroup.decode, List.map_cons, List.length_cons, List.length_map] at h four
    split at h
    · cases h
    · next admitted =>
      have padded := Alphabet.padding_of_paddingOk (Decidable.not_not.mp admitted) (by omega) four
      rcases rest with _ | ⟨c, _ | ⟨d, _ | ⟨e, more⟩⟩⟩
      · simp only [List.map_nil] at h
        split at h
        · cases h
        · next spare =>
          cases h
          rw [padded, encodeSymbols_two ha hb (Decidable.not_not.mp spare)]
          rfl
      · have hc : c < 64 := bound c (by simp)
        simp only [List.map_cons, List.map_nil] at h
        split at h
        · cases h
        · next spare =>
          cases h
          rw [padded, encodeSymbols_three ha hb hc (Decidable.not_not.mp spare)]
          rfl
      · have hc : c < 64 := bound c (by simp)
        have hd : d < 64 := bound d (by simp)
        have joined := encodeSymbols_joinQuad (α := α) ha hb hc hd []
        have unpadded : α.padding 0 = [] := by cases α <;> rfl
        cases h
        rw [List.append_nil] at joined
        rw [padded, joined]
        show _ ++ α.padding 0 = _
        rw [unpadded]
        rfl
      · simp only [List.length_cons] at four
        omega

/-! ## Whole texts -/

/-- Symbols that are read are those that are written for the bytes. -/
theorem eq_encodeSymbols_of_decodeGroups {start : Nat} {symbols bytes : Bytes}
    (h : decodeGroups α start symbols = .ok bytes) : symbols = encodeSymbols α bytes := by
  induction start, symbols using decodeGroups.induct generalizing bytes with
  | case1 start a b c d e rest ih =>
    rw [decodeGroups] at h
    obtain ⟨na, first, h⟩ := bind_eq_ok h
    obtain ⟨nb, second, h⟩ := bind_eq_ok h
    obtain ⟨nc, third, h⟩ := bind_eq_ok h
    obtain ⟨nd, fourth, h⟩ := bind_eq_ok h
    obtain ⟨tail, later, h⟩ := bind_eq_ok h
    cases h
    obtain ⟨ha, rfl⟩ := symbol_of_readSymbol first
    obtain ⟨hb, rfl⟩ := symbol_of_readSymbol second
    obtain ⟨hc, rfl⟩ := symbol_of_readSymbol third
    obtain ⟨hd, rfl⟩ := symbol_of_readSymbol fourth
    rw [encodeSymbols_joinQuad ha hb hc hd, ← ih later]
  | case2 start last short =>
    have four : last.length ≤ 4 := by
      rcases last with _ | ⟨a, _ | ⟨b, _ | ⟨c, _ | ⟨d, _ | ⟨e, rest⟩⟩⟩⟩⟩
      case cons.cons.cons.cons.cons => exact absurd rfl (short a b c d e rest)
      all_goals simp
    rw [decodeGroups.eq_2 _ _ _ short] at h
    obtain ⟨g, read, decoded⟩ := bind_eq_ok h
    obtain ⟨ns, padding, bound, rfl, rfl, place⟩ := exists_numbers_of_readLastGroup read
    rw [List.length_append, List.length_map, List.length_replicate] at four
    rw [Nat.zero_add] at place
    exact eq_encodeSymbols_of_decode bound four place decoded

/-- A text is read exactly if it is what is written for the bytes. -/
theorem decode_eq_ok_iff {s : String} {bytes : Bytes} :
    decode α s = .ok bytes ↔ s = encode α bytes := by
  constructor
  · intro h
    apply Bytes.ofText_inj
    rw [ofText_encode]
    unfold decode decodeSymbols at h
    split at h
    · cases h
    · exact eq_encodeSymbols_of_decodeGroups h
  · rintro rfl
    exact decode_encode α bytes

/-- The characters of a text that is read are not blank and separate nothing, whoever wrote it. -/
theorem not_separator_of_decode {s : String} {bytes : Bytes} (h : decode α s = .ok bytes) {c : Char}
    (mem : c ∈ s.toList) : isBlank c = false ∧ c ∉ separators := by
  rw [decode_eq_ok_iff.mp h] at mem
  exact not_separator_of_mem_encode α mem

end TokenBinding.Text.Base64
