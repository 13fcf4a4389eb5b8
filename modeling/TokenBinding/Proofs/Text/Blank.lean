import Mathlib.Data.List.DropRight
import TokenBinding.Text.Blank

/-!
# Trimmed texts

Trimming leaves a text as it is that has no blank at either end; a text without blanks is one. What
trimming leaves is such a text (`trimChars_trimChars`).

`Trims` says what it is to trim a text without saying how: blanks are taken away at both ends, and
none is left there. There is one result, and `trimChars` finds it (`trims_iff`).
-/

namespace TokenBinding.Text

theorem trimStart_of_not_blank {cs : List Char} (h : ∀ c ∈ cs, isBlank c = false) :
    trimStart cs = cs := by
  cases cs with
  | nil => rfl
  | cons c cs => simp [trimStart, h c List.mem_cons_self]

/-- There is nothing to trim from a text without blanks. -/
theorem trimChars_of_not_blank {cs : List Char} (h : ∀ c ∈ cs, isBlank c = false) :
    trimChars cs = cs := by
  have reversed : ∀ c ∈ cs.reverse, isBlank c = false := fun c mem => h c (List.mem_reverse.mp mem)
  have back : cs.reverse.dropWhile isBlank = cs.reverse := trimStart_of_not_blank reversed
  rw [trimChars, trimStart_of_not_blank h, trimEnd, back, List.reverse_reverse]

/-- A character that is not blank keeps what stands in front of it from being trimmed. -/
theorem trimEnd_append_cons {c : Char} (solid : isBlank c = false) (front back : List Char) :
    trimEnd (front ++ c :: back) = front ++ c :: trimEnd back := by
  have shape : (front ++ c :: back).reverse = back.reverse ++ c :: front.reverse := by
    simp only [List.reverse_append, List.reverse_cons, List.append_assoc, List.singleton_append]
  rw [trimEnd, shape, List.dropWhile_append]
  split
  · next blank =>
    have gone : back.reverse.dropWhile isBlank = [] := List.isEmpty_iff.mp blank
    have stays : (c :: front.reverse).dropWhile isBlank = c :: front.reverse :=
      List.dropWhile_cons_of_neg (Bool.eq_false_iff.mp solid)
    rw [stays, trimEnd, gone, List.reverse_cons, List.reverse_reverse]
    rfl
  · rw [List.reverse_append, List.reverse_cons, List.reverse_reverse, trimEnd]
    simp only [List.append_assoc, List.singleton_append]

/-- Up to a character that is no blank, only what is behind it is trimmed. -/
theorem trimChars_append_cons {front : List Char} {c : Char}
    (solidFront : ∀ d ∈ front, isBlank d = false) (solid : isBlank c = false) (back : List Char) :
    trimChars (front ++ c :: back) = front ++ c :: trimEnd back := by
  have start : trimStart (front ++ c :: back) = front ++ c :: back := by
    cases front with
    | nil => exact List.dropWhile_cons_of_neg (Bool.eq_false_iff.mp solid)
    | cons d rest =>
      exact List.dropWhile_cons_of_neg (Bool.eq_false_iff.mp (solidFront d List.mem_cons_self))
  rw [trimChars, start, trimEnd_append_cons solid]

/-- What trimming leaves does not start with a blank. -/
theorem isBlank_of_trimStart_eq_cons {c : Char} {cs rest : List Char}
    (h : trimStart cs = c :: rest) : isBlank c = false := by
  have first := List.head?_dropWhile_not isBlank cs
  rw [← trimStart, h] at first
  exact first

/-- Trimming the end leaves nothing to trim at the start that was trimmed before. -/
theorem trimStart_trimEnd_trimStart (cs : List Char) :
    trimStart (trimEnd (trimStart cs)) = trimEnd (trimStart cs) := by
  cases h : trimStart cs with
  | nil => rfl
  | cons c rest =>
    have solid := isBlank_of_trimStart_eq_cons h
    have kept : trimEnd (c :: rest) = c :: trimEnd rest := trimEnd_append_cons solid [] rest
    rw [kept, trimStart, List.dropWhile_cons_of_neg (Bool.eq_false_iff.mp solid)]

/-- What trimming leaves has no blank at either end. -/
theorem trimChars_trimChars (cs : List Char) : trimChars (trimChars cs) = trimChars cs := by
  rw [trimChars, trimChars, trimStart_trimEnd_trimStart]
  exact List.rdropWhile_idempotent isBlank (trimStart cs)

/-- Trimming only takes characters away. -/
theorem mem_of_mem_trimChars {c : Char} {cs : List Char} (h : c ∈ trimChars cs) : c ∈ cs := by
  have kept : c ∈ trimStart cs := (List.rdropWhile_prefix isBlank (trimStart cs)).mem h
  exact (List.dropWhile_suffix isBlank).mem kept

/-! ## What trimming is -/

/-- The text with blanks at either end, and the text between them. -/
structure Trims (cs trimmed : List Char) : Prop where
  around : ∃ front back, cs = front ++ trimmed ++ back ∧ (∀ c ∈ front, isBlank c = true) ∧
    ∀ c ∈ back, isBlank c = true
  first : ∀ c, trimmed.head? = some c → isBlank c = false
  last : ∀ c, trimmed.getLast? = some c → isBlank c = false

theorem trimEnd_of_blank {cs : List Char} (blank : ∀ c ∈ cs, isBlank c = true) :
    trimEnd cs = [] := by
  have gone : cs.reverse.dropWhile isBlank = [] :=
    List.dropWhile_eq_nil_iff.mpr fun c mem => blank c (List.mem_reverse.mp mem)
  rw [trimEnd, gone, List.reverse_nil]

theorem trimStart_append {front : List Char} (blank : ∀ c ∈ front, isBlank c = true)
    (back : List Char) : trimStart (front ++ back) = trimStart back :=
  List.dropWhile_append_of_pos blank

/-- What trimming leaves is what was between the blanks. -/
theorem Trims.eq {cs trimmed : List Char} (h : Trims cs trimmed) : trimChars cs = trimmed := by
  obtain ⟨⟨front, back, rfl, blankFront, blankBack⟩, first, last⟩ := h
  rw [trimChars, List.append_assoc, trimStart_append blankFront]
  rcases List.eq_nil_or_concat trimmed with rfl | ⟨start, d, rfl⟩
  · have gone : trimStart back = [] := List.dropWhile_eq_nil_iff.mpr blankBack
    rw [List.nil_append, gone]
    rfl
  · have solid : isBlank d = false := last d (by simp)
    have kept : trimStart (start.concat d ++ back) = start.concat d ++ back := by
      cases start with
      | nil => exact List.dropWhile_cons_of_neg (Bool.eq_false_iff.mp solid)
      | cons c rest =>
        exact List.dropWhile_cons_of_neg (Bool.eq_false_iff.mp (first c rfl))
    rw [kept, List.concat_eq_append, List.append_assoc, List.singleton_append,
      trimEnd_append_cons solid, trimEnd_of_blank blankBack]

/-- What trimming leaves is the middle of the text, with blanks on both sides and none at its own
ends. -/
theorem trims_trimChars (cs : List Char) : Trims cs (trimChars cs) where
  around := by
    let middle := trimStart cs
    refine ⟨cs.takeWhile isBlank, (middle.reverse.takeWhile isBlank).reverse, ?_, ?_, ?_⟩
    · have back : middle = trimEnd middle ++ (middle.reverse.takeWhile isBlank).reverse := by
        rw [trimEnd, ← List.reverse_append, List.takeWhile_append_dropWhile, List.reverse_reverse]
      rw [List.append_assoc]
      show cs = cs.takeWhile isBlank ++ (trimEnd middle ++ _)
      rw [← back]
      exact List.takeWhile_append_dropWhile.symm
    · exact fun c mem => List.mem_takeWhile_imp mem
    · exact fun c mem => List.mem_takeWhile_imp (List.mem_reverse.mp mem)
  first c head := by
    obtain ⟨rest, shape⟩ := List.head?_eq_some_iff.mp head
    have start : trimStart (trimChars cs) = c :: rest := by
      rw [trimChars, trimStart_trimEnd_trimStart, ← trimChars, shape]
    exact isBlank_of_trimStart_eq_cons start
  last c final := by
    rw [trimChars, trimEnd, List.getLast?_reverse] at final
    have solid := List.head?_dropWhile_not isBlank (trimStart cs).reverse
    rw [final] at solid
    exact solid

/-- Only blanks are taken away. -/
theorem Trims.mem {cs trimmed : List Char} (h : Trims cs trimmed) {c : Char}
    (solid : isBlank c = false) (mem : c ∈ cs) : c ∈ trimmed := by
  obtain ⟨front, back, rfl, blankFront, blankBack⟩ := h.around
  rcases List.mem_append.mp mem with inner | behind
  · rcases List.mem_append.mp inner with before | kept
    · exact absurd (blankFront c before) (Bool.eq_false_iff.mp solid)
    · exact kept
  · exact absurd (blankBack c behind) (Bool.eq_false_iff.mp solid)

/-- There is one way to trim a text. -/
theorem trims_iff {cs trimmed : List Char} : Trims cs trimmed ↔ trimChars cs = trimmed :=
  ⟨Trims.eq, fun same => same ▸ trims_trimChars cs⟩

end TokenBinding.Text
