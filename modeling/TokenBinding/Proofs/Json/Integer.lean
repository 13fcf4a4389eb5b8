import TokenBinding.Json.Token
import TokenBinding.Proofs.Text.Utf8

/-!
# A whole number is read back

The decimal text of a number of 64 bits, signed or not, is one word and is read as that number
(`scalar?_integer`). Its digits are taken as they were written, the first of them is no needless
zero, and gathering them never comes to the bound of the significand.
-/

namespace TokenBinding.Json

namespace Number

/-- The decimal digits of a number, the first one first. -/
def digits (n : Nat) : List Nat := if n < 10 then [n] else digits (n / 10) ++ [n % 10]

/-- The digits are those that the core library prints. -/
theorem toDigits_eq_digits (n : Nat) : Nat.toDigits 10 n = (digits n).map Nat.digitChar := by
  induction n using digits.induct with
  | case1 n small => rw [digits, if_pos small, Nat.toDigits_of_lt_base small, List.map_singleton]
  | case2 n large ih =>
    rw [digits, if_neg large, Nat.toDigits_of_base_le (by decide) (by omega), ih, List.map_append,
      List.map_singleton]

theorem lt_of_mem_digits {n d : Nat} (h : d ∈ digits n) : d < 10 := by
  induction n using digits.induct with
  | case1 n small =>
    rw [digits, if_pos small, List.mem_singleton] at h
    omega
  | case2 n large ih =>
    rw [digits, if_neg large, List.mem_append, List.mem_singleton] at h
    rcases h with front | rfl
    · exact ih front
    · omega

/-- A number that is not zero does not begin with a zero. -/
theorem digits_eq_cons {n : Nat} (positive : 0 < n) : ∃ d ds, digits n = d :: ds ∧ d ≠ 0 := by
  induction n using digits.induct with
  | case1 n small => exact ⟨n, [], by rw [digits, if_pos small], by omega⟩
  | case2 n large ih =>
    obtain ⟨d, ds, front, leading⟩ := ih (by omega)
    exact ⟨d, ds ++ [n % 10], by rw [digits, if_neg large, front, List.cons_append], leading⟩

/-- Where a number could be gathered from all digits so far, more digits are gathered on top of
it. -/
theorem gather_append {bound n m : Nat} {ds : List Nat} (h : gather bound n ds = (m, []))
    (es : List Nat) : gather bound n (ds ++ es) = gather bound m es := by
  induction ds generalizing n with
  | nil =>
    cases h
    rfl
  | cons d ds ih =>
    rw [gather] at h
    rw [List.cons_append, gather]
    split at h
    · next fits =>
      rw [if_pos fits]
      exact ih h
    · cases h

/-- The digits of a number below the bound are gathered to that number. -/
theorem gather_digits {bound n : Nat} (h : n < bound) : gather bound 0 (digits n) = (n, []) := by
  induction n using digits.induct with
  | case1 n small =>
    have fits : 10 * 0 + n < bound := by omega
    rw [digits, if_pos small, gather, if_pos fits, gather, Nat.mul_zero, Nat.zero_add]
  | case2 n large ih =>
    have whole : 10 * (n / 10) + n % 10 = n := Nat.div_add_mod n 10
    have fits : 10 * (n / 10) + n % 10 < bound := by omega
    rw [digits, if_neg large, gather_append (ih (by omega)), gather, if_pos fits, gather, whole]

end Number

namespace Token

open Number (digits)

/-- The byte of a decimal digit. -/
def digitByte (d : Nat) : UInt8 := UInt8.ofNat (48 + d)

theorem digit?_digitByte : ∀ d < 10, digit? (digitByte d) = some d := by decide

/-- Digits are taken as far as they go. -/
theorem takeDigits_map {ds : List Nat} (h : ∀ d ∈ ds, d < 10) :
    takeDigits (ds.map digitByte) = (ds, []) := by
  induction ds with
  | nil => rfl
  | cons d ds ih =>
    have first : digit? (digitByte d) = some d := digit?_digitByte d (h d List.mem_cons_self)
    have later := ih fun e mem => h e (List.mem_cons_of_mem d mem)
    rw [List.map_cons, takeDigits]
    simp only [first, later]
    rfl

/-- There is no zero in front of the digits of a number, unless it is zero itself. -/
theorem wholeDigits?_digits (n : Nat) : wholeDigits? (digits n) = some (digits n) := by
  by_cases small : n < 10
  · rw [digits, if_pos small]
    rfl
  · obtain ⟨d, ds, front, leading⟩ := Number.digits_eq_cons (show 0 < n / 10 by omega)
    rw [digits, if_neg small, front]
    cases ds with
    | nil => simp only [List.cons_append, List.nil_append, wholeDigits?, if_neg leading]
    | cons e ds => simp only [List.cons_append, wholeDigits?, if_neg leading]

/-- The bytes of a natural number in decimal. -/
def decimal (n : Nat) : Bytes := (digits n).map digitByte

/-- A natural number is printed as the bytes of its digits. -/
theorem ofChars_repr (n : Nat) : Bytes.ofChars n.repr.toList = decimal n := by
  have digit : ∀ d < 10, String.utf8EncodeChar d.digitChar = [digitByte d] := by decide
  have chars : ∀ d ∈ digits n, String.utf8EncodeChar d.digitChar = [digitByte d] :=
    fun d mem => digit d (Number.lt_of_mem_digits mem)
  rw [Nat.toList_repr, Number.toDigits_eq_digits, Bytes.ofChars, List.flatMap_map, List.flatMap_def,
    List.map_congr_left chars, decimal]
  induction digits n with
  | nil => rfl
  | cons d ds ih => rw [List.map_cons, List.map_cons, List.flatten_cons, ih, List.singleton_append]

theorem digits_ne_nil (n : Nat) : digits n ≠ [] := by
  rw [digits]
  split
  · exact List.cons_ne_nil _ _
  · exact List.append_ne_nil_of_right_ne_nil _ (List.cons_ne_nil _ _)

/-- All of a decimal text is digits. -/
theorem takeDigits_decimal (n : Nat) : takeDigits (decimal n) = (digits n, []) :=
  takeDigits_map fun _ mem => Number.lt_of_mem_digits mem

/-- A decimal begins with a digit, and so with no sign. -/
theorem decimal_eq_cons (n : Nat) : ∃ d rest, d < 10 ∧ decimal n = digitByte d :: rest := by
  obtain ⟨d, ds, shape⟩ := List.exists_cons_of_ne_nil (digits_ne_nil n)
  have bound : d < 10 := Number.lt_of_mem_digits (shape ▸ List.mem_cons_self)
  exact ⟨d, ds.map digitByte, bound, by rw [decimal, shape, List.map_cons]⟩

/-- The digits of a number are read as that number, without a sign. -/
theorem number?_decimal (n : Nat) :
    number? (decimal n) = some { negative := false, whole := digits n } := by
  obtain ⟨d, rest, bound, shape⟩ := decimal_eq_cons n
  have unsigned : ∀ e < 10, digitByte e ≠ 45 := by decide
  have taken := takeDigits_decimal n
  rw [shape] at taken ⊢
  simp only [number?, if_neg (unsigned d bound), taken, wholeDigits?_digits, fraction?, exponent?]

/-- With a minus in front, they are read with the sign. -/
theorem number?_minus_decimal (n : Nat) :
    number? (45 :: decimal n) = some { negative := true, whole := digits n } := by
  simp only [number?, if_true, takeDigits_decimal, wholeDigits?_digits, fraction?, exponent?]

/-- The number that plain digits are, if they fit. -/
theorem value_digits (negative : Bool) {n : Nat} (fits : n < Number.significandBound) :
    Number.Parts.value { negative := negative, whole := digits n } =
      .ok (Number.ofWhole negative n) := by
  simp only [Number.Parts.value, Number.gather_digits fits]

/-- A word that begins below `a` is none of the names. -/
theorem scalar?_eq_number? {b : UInt8} {rest : Bytes} (h : b.toNat < 97) :
    scalar? (b :: rest) = (number? (b :: rest)).map Number.Parts.value := by
  have unnamed : ∀ {c : UInt8} {cs : Bytes}, 97 ≤ c.toNat → b :: rest ≠ c :: cs := by
    intro c cs name same
    cases same
    omega
  have isNull : Bytes.ofText "null" = [110, 117, 108, 108] := by decide
  have isTrue : Bytes.ofText "true" = [116, 114, 117, 101] := by decide
  have isFalse : Bytes.ofText "false" = [102, 97, 108, 115, 101] := by decide
  rw [scalar?, isNull, isTrue, isFalse, if_neg (unnamed (by decide)), if_neg (unnamed (by decide)),
    if_neg (unnamed (by decide))]

/-- The bytes of a whole number in decimal. -/
def integerBytes (n : Int) : Bytes := Bytes.ofChars (toString n).toList

/-- An integer that is not negative is written in digits only. -/
theorem integerBytes_nonneg {n : Int} (h : 0 ≤ n) : integerBytes n = decimal n.toNat := by
  rw [integerBytes, Int.toString_eq_repr, Int.repr_eq_if, if_pos h, ofChars_repr]

/-- An integer below zero is printed as a minus and the digits of its size. -/
theorem integerBytes_neg {n : Int} (h : ¬ 0 ≤ n) : integerBytes n = 45 :: decimal (-n).toNat := by
  rw [integerBytes, Int.toString_eq_repr, Int.repr_eq_if, if_neg h, String.toList_append,
    Bytes.ofChars_append, ofChars_repr]
  rfl

/-- A whole number that has 64 bits, with a sign or without one. -/
def IsWide (n : Int) : Prop := -9223372036854775808 ≤ n ∧ n < 18446744073709551616

/-- A whole number of 64 bits is read back from its decimal text. -/
theorem scalar?_integer {n : Int} (wide : IsWide n) :
    scalar? (integerBytes n) = some (.ok (.integer n)) := by
  obtain ⟨low, high⟩ := wide
  by_cases sign : 0 ≤ n
  · obtain ⟨d, rest, bound, shape⟩ := decimal_eq_cons n.toNat
    have fits : n.toNat < Number.significandBound := by
      unfold Number.significandBound
      omega
    have small : ∀ e < 10, (digitByte e).toNat < 97 := by decide
    have number := number?_decimal n.toNat
    rw [integerBytes_nonneg sign]
    rw [shape] at number ⊢
    rw [scalar?_eq_number? (small d bound), number, Option.map_some, value_digits false fits]
    simp only [Number.ofWhole, Bool.false_eq_true, if_false, Int.toNat_of_nonneg sign]
  · have fits : (-n).toNat < Number.significandBound := by
      unfold Number.significandBound
      omega
    have magnitude : 0 < (-n).toNat ∧ (-n).toNat ≤ 1 <<< 63 := by omega
    have back : -((-n).toNat : Int) = n := by omega
    rw [integerBytes_neg sign, scalar?_eq_number? (by decide), number?_minus_decimal,
      Option.map_some, value_digits true fits]
    simp only [Number.ofWhole, if_true, if_pos magnitude, back]

/-- The text of a whole number is one word. -/
theorem isWordByte_of_mem_integerBytes {n : Int} {b : UInt8} (h : b ∈ integerBytes n) :
    isWordByte b = true := by
  have digit : ∀ d < 10, isWordByte (digitByte d) = true := by decide
  have decimal : ∀ {m : Nat}, b ∈ decimal m → isWordByte b = true := by
    intro m mem
    obtain ⟨d, among, rfl⟩ := List.mem_map.mp mem
    exact digit d (Number.lt_of_mem_digits among)
  by_cases sign : 0 ≤ n
  · rw [integerBytes_nonneg sign] at h
    exact decimal h
  · rw [integerBytes_neg sign] at h
    rcases List.mem_cons.mp h with rfl | mem
    · decide
    · exact decimal mem

end Token

end TokenBinding.Json
