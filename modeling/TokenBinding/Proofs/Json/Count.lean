import Mathlib.Data.List.Induction
import TokenBinding.Proofs.Json.Integer

/-!
# Which words are whole numbers

`scalar?_integer` says that a whole number of 64 bits is read back from its decimal text. Here is
the other way round: of all words only that text is read as the number (`scalar?_eq_natural_iff`).
A sign, a point, an exponent or a needless zero in front makes another number of it, or no number at
all, and so does one digit too many.

The digits that a word gives are those it is written with (`eq_of_takeDigits`), and digits without a
needless zero are the digits of the number that they come to (`digits_foldl`).
-/

namespace TokenBinding.Json

namespace Number

/-! ## Digits -/

/-- The number that digits come to. -/
def numeral (ds : List Nat) : Nat := ds.foldl (fun n d => 10 * n + d) 0

/-- One more digit at the end makes ten times as much, and the digit. -/
theorem numeral_append (ds : List Nat) (d : Nat) :
    numeral (ds ++ [d]) = 10 * numeral ds + d := by
  rw [numeral, List.foldl_append]
  rfl

/-- Gathering that leaves no digit comes to that number. -/
theorem eq_numeral_of_gather {bound n : Nat} {ds : List Nat} (h : gather bound 0 ds = (n, [])) :
    n = numeral ds := by
  have gathered : ∀ (ds : List Nat) (m : Nat), gather bound m ds = (n, []) →
      n = ds.foldl (fun n d => 10 * n + d) m := by
    intro ds
    induction ds with
    | nil =>
      intro m h
      cases h
      rfl
    | cons d ds ih =>
      intro m h
      rw [gather] at h
      split at h
      · exact ih (10 * m + d) h
      · cases h
  exact gathered ds 0 h

/-- Digits that do not begin with a zero are those of the number that they come to. -/
theorem digits_numeral {d : Nat} (leading : d ≠ 0) {ds : List Nat} (small : ∀ e ∈ d :: ds, e < 10) :
    digits (numeral (d :: ds)) = d :: ds ∧ 0 < numeral (d :: ds) := by
  induction ds using List.reverseRecOn with
  | nil =>
    have one : numeral [d] = d := by simp only [numeral, List.foldl_cons, List.foldl_nil]; omega
    have below : d < 10 := small d List.mem_cons_self
    rw [one, digits, if_pos below]
    exact ⟨rfl, Nat.pos_of_ne_zero leading⟩
  | append_singleton ds e ih =>
    obtain ⟨front, positive⟩ := ih fun x mem => small x (List.mem_append_left [e] mem)
    have below : e < 10 := small e (List.mem_append_right (d :: ds) (List.mem_singleton_self e))
    have last : numeral (d :: (ds ++ [e])) = 10 * numeral (d :: ds) + e :=
      numeral_append (d :: ds) e
    have tens : (10 * numeral (d :: ds) + e) / 10 = numeral (d :: ds) := by omega
    have ones : (10 * numeral (d :: ds) + e) % 10 = e := by omega
    rw [last, digits, if_neg (by omega), tens, ones, front]
    exact ⟨rfl, by omega⟩

/-! ## Values -/

/-- A number with a power of ten is a real number if it is one at all, and no integer. -/
theorem real_of_scaled {negative : Bool} {significand : Nat} {e : Int} {v : Value}
    (h : scaled negative significand e = .ok v) : ∃ x, v = .real x := by
  unfold scaled at h
  split at h
  · cases h
    exact ⟨_, rfl⟩
  · cases h

/-- A number with an exponent is a real number if it is one at all, even if the exponent is zero. -/
theorem real_of_withExponent {negative below : Bool} {significand : Nat} {e : Int} {ds : List Nat}
    {v : Value} (h : withExponent negative significand e below ds = .ok v) : ∃ x, v = .real x := by
  unfold withExponent at h
  split at h
  · exact real_of_scaled h
  · split at h
    · cases h
      exact ⟨_, rfl⟩
    · cases h

/-- A number is read as a binary fraction, unless it is written with digits only and they fit. -/
theorem value_eq_ok {p : Parts} {v : Value} (h : p.value = .ok v) :
    (∃ x, v = .real x) ∨
      p.fraction? = none ∧ p.exponent? = none ∧ numeral p.whole < significandBound ∧
        v = ofWhole p.negative (numeral p.whole) := by
  obtain ⟨n, dropped, gathered⟩ : ∃ n dropped,
      gather significandBound 0 p.whole = (n, dropped) := ⟨_, _, rfl⟩
  simp only [Parts.value, gathered] at h
  split at h
  · next noFraction noExponent =>
    cases h
    obtain rfl : n = numeral p.whole := eq_numeral_of_gather gathered
    have bound := gather_lt (show 0 < significandBound by decide) p.whole
    rw [gathered] at bound
    exact .inr ⟨noFraction, noExponent, bound, rfl⟩
  · split at h
    · exact .inl (real_of_scaled h)
    · exact .inl (real_of_withExponent h)

/-- Digits that fit are a whole number or, behind a sign, a binary fraction. -/
theorem ofWhole_cases (negative : Bool) (n : Nat) :
    (∃ x, ofWhole negative n = .real x) ∨
      ∃ k, ofWhole negative n = .integer k ∧ (0 ≤ k → negative = false ∧ k = n) := by
  cases negative with
  | false => exact .inr ⟨n, rfl, fun _ => ⟨rfl, rfl⟩⟩
  | true =>
    by_cases fits : 0 < n ∧ n ≤ 1 <<< 63
    · refine .inr ⟨-n, by simp only [ofWhole, if_true, if_pos fits], ?_⟩
      intro positive
      omega
    · exact .inl ⟨⟨true, .ofNat n⟩, by simp only [ofWhole, if_true, if_neg fits]⟩

end Number

namespace Token

open Number (digits)

theorem eq_digitByte_of_digit? {b : UInt8} {d : Nat} (h : digit? b = some d) :
    b = digitByte d ∧ d < 10 := by
  unfold digit? at h
  split at h
  · next range =>
    cases h
    have byte : 48 + (b.toNat - 48) = b.toNat := by omega
    exact ⟨by rw [digitByte, byte, UInt8.ofNat_toNat], by omega⟩
  · cases h

/-- The digits that are taken are those that stand there. -/
theorem eq_of_takeDigits {word rest : Bytes} {ds : List Nat} (h : takeDigits word = (ds, rest)) :
    word = ds.map digitByte ++ rest ∧ ∀ d ∈ ds, d < 10 := by
  induction word generalizing ds with
  | nil =>
    cases h
    exact ⟨rfl, nofun⟩
  | cons b word ih =>
    rw [takeDigits] at h
    split at h
    · next d found =>
      obtain ⟨rfl, small⟩ := eq_digitByte_of_digit? found
      cases h
      obtain ⟨later, smaller⟩ := ih rfl
      refine ⟨congrArg (digitByte d :: ·) later, ?_⟩
      exact List.forall_mem_cons.mpr ⟨small, smaller⟩
    · cases h
      exact ⟨rfl, nofun⟩

/-- Digits without a leading zero are those of the number that they spell. -/
theorem numeral_of_wholeDigits? {ds whole : List Nat} (h : wholeDigits? ds = some whole)
    (small : ∀ d ∈ ds, d < 10) : whole = ds ∧ digits (Number.numeral ds) = ds := by
  unfold wholeDigits? at h
  split at h
  · cases h
  · next d =>
    cases h
    refine ⟨rfl, ?_⟩
    have below : d < 10 := small d (List.mem_singleton_self d)
    have one : Number.numeral [d] = d := by
      simp only [Number.numeral, List.foldl_cons, List.foldl_nil]
      omega
    rw [one, digits, if_pos below]
  · next d e ds =>
    split at h
    · cases h
    · next leading =>
      cases h
      exact ⟨rfl, (Number.digits_numeral leading small).1⟩

/-! ## Words -/

theorem eq_of_fraction?_none {bs rest : Bytes} (h : fraction? bs = some (none, rest)) :
    rest = bs := by
  unfold fraction? at h
  split at h
  · cases h
    rfl
  · split at h
    · split at h <;> cases h
    · cases h
      rfl

theorem eq_of_exponent?_none {bs rest : Bytes} (h : exponent? bs = some (none, rest)) :
    rest = bs := by
  unfold exponent? at h
  split at h
  · cases h
    rfl
  · split at h
    · dsimp only at h
      split at h <;> cases h
    · cases h
      rfl

/-- A word without sign, fraction and exponent is its digits. -/
theorem eq_decimal_of_number? {word : Bytes} {p : Number.Parts} (h : number? word = some p)
    (unsigned : p.negative = false) (noFraction : p.fraction? = none)
    (noExponent : p.exponent? = none) : word = decimal (Number.numeral p.whole) := by
  -- With a sign in front the number would be negative, so the digits begin at once.
  have front : ∃ ds left, takeDigits word = (ds, left) ∧ wholeDigits? ds = some p.whole ∧
      ∃ left', fraction? left = some (p.fraction?, left') ∧
        exponent? left' = some (p.exponent?, []) := by
    cases word with
    | nil => cases h
    | cons b rest =>
      unfold number? at h
      by_cases minus : b = 45
      · simp only [if_pos minus] at h
        split at h
        · split at h
          · cases h
            cases unsigned
          · cases h
        · cases h
      · simp only [if_neg minus] at h
        split at h
        · next whole fraction left' wholeOk fractionOk =>
          split at h
          · next exponent exponentOk =>
            cases h
            exact ⟨_, _, rfl, wholeOk, left', fractionOk, exponentOk⟩
          · cases h
        · cases h
  obtain ⟨ds, left, taken, whole, left', fraction, exponent⟩ := front
  rw [noFraction] at fraction
  rw [noExponent] at exponent
  obtain rfl := eq_of_fraction?_none fraction
  obtain rfl := eq_of_exponent?_none exponent
  obtain ⟨written, small⟩ := eq_of_takeDigits taken
  obtain ⟨same, own⟩ := numeral_of_wholeDigits? whole small
  rw [written, List.append_nil, same, decimal, own]

/-- A word is `null`, a truth value, a whole number or a binary fraction. -/
theorem scalar?_eq_ok {word : Bytes} {v : Value} (h : scalar? word = some (.ok v)) :
    (v = .null ∧ word = Bytes.ofText "null") ∨ (∃ b, v = .bool b) ∨ (∃ x, v = .real x) ∨
      ∃ k, v = .integer k ∧ (0 ≤ k → word = decimal k.toNat ∧ k < UInt64.size) := by
  unfold scalar? at h
  split at h
  · next named =>
    cases h
    exact .inl ⟨rfl, named⟩
  split at h
  · cases h
    exact .inr (.inl ⟨true, rfl⟩)
  split at h
  · cases h
    exact .inr (.inl ⟨false, rfl⟩)
  obtain ⟨p, number, value⟩ := Option.map_eq_some_iff.mp h
  rcases Number.value_eq_ok value with ⟨x, rfl⟩ | ⟨noFraction, noExponent, bound, rfl⟩
  · exact .inr (.inr (.inl ⟨x, rfl⟩))
  · rcases Number.ofWhole_cases p.negative (Number.numeral p.whole) with ⟨x, real⟩ | ⟨k, whole, own⟩
    · exact .inr (.inr (.inl ⟨x, real⟩))
    · refine .inr (.inr (.inr ⟨k, whole, ?_⟩))
      intro positive
      obtain ⟨unsigned, rfl⟩ := own positive
      exact ⟨eq_decimal_of_number? number unsigned noFraction noExponent, by exact_mod_cast bound⟩

/-- Of all words, the decimal text of a natural number of 64 bits is the one that is read as that
number. -/
theorem scalar?_eq_natural_iff {word : Bytes} {n : Nat} :
    scalar? word = some (.ok (.integer n)) ↔ word = decimal n ∧ n < UInt64.size := by
  constructor
  · intro h
    rcases scalar?_eq_ok h with ⟨named, -⟩ | ⟨_, named⟩ | ⟨_, named⟩ | ⟨k, named, own⟩
    · cases named
    · cases named
    · cases named
    · cases named
      obtain ⟨written, bound⟩ := own (Int.natCast_nonneg n)
      exact ⟨written, by exact_mod_cast bound⟩
  · rintro ⟨rfl, bound⟩
    have wide : IsWide (n : Int) := by
      have size : UInt64.size = 18446744073709551616 := rfl
      unfold IsWide
      omega
    have written : integerBytes (n : Int) = decimal n := integerBytes_nonneg (Int.natCast_nonneg n)
    rw [← written]
    exact scalar?_integer wide

end Token

end TokenBinding.Json
