import TokenBinding.Proofs.Text.Segments

/-!
# Lines of a text

A program prints its lines one after the other, each with a line feed behind it. Whoever reads them
sees the segments between the line feeds, and cannot tell a line feed that was printed in the middle
of a line from one at its end. So a line is read as one more line for every line feed in it
(`length_segments`). The lines that are read with a certain character in front are the line itself,
if it begins so, and as many more as there are line feeds in it with that character behind them
(`countP_begins_segments`).
-/

namespace TokenBinding.Text

/-- What ends a line. -/
def lineFeed : Char := '\n'

/-- The lines of a text in which each is ended. -/
def lines (cs : List Char) : List (List Char) := (segments lineFeed cs).dropLast

/-- Whether the mark stands in front. -/
def begins (mark : Char) (cs : List Char) : Bool := cs.head? == some mark

/-- How often the mark stands behind a line feed. -/
def innerStarts (mark : Char) : List Char → Nat
  | [] => 0
  | c :: cs => (if c = lineFeed ∧ begins mark cs = true then 1 else 0) + innerStarts mark cs

/-- The text has no line feed in it. -/
def OneLine (s : String) : Prop := lineFeed ∉ s.toList

instance (s : String) : Decidable (OneLine s) := inferInstanceAs (Decidable (lineFeed ∉ s.toList))

/-! ## Reading lines -/

variable {mark : Char}

/-- The segments are one more than the separators. -/
theorem length_segments (sep : Char) (cs : List Char) :
    (segments sep cs).length = cs.count sep + 1 := by
  induction cs with
  | nil => rfl
  | cons c cs ih =>
    by_cases same : c = sep
    · rw [segments, if_pos same, List.length_cons, ih, same, List.count_cons_self]
    · obtain ⟨s, ss, parts⟩ := List.exists_cons_of_ne_nil (segments_ne_nil sep cs)
      rw [parts, List.length_cons] at ih
      simp only [segments, if_neg same, parts, List.length_cons, ih, List.count_cons_of_ne same]

/-- The first segment begins as the text does. -/
theorem begins_of_segments_eq_cons {sep : Char} (other : mark ≠ sep) {cs s : List Char}
    {ss : List (List Char)} (h : segments sep cs = s :: ss) : begins mark s = begins mark cs := by
  cases cs with
  | nil =>
    cases h
    rfl
  | cons c cs =>
    by_cases same : c = sep
    · rw [segments, if_pos same] at h
      cases h
      have differ : (some c == some mark) = false := by
        rw [same]
        exact beq_eq_false_iff_ne.mpr fun equal => other (Option.some.inj equal).symm
      rw [begins, begins, List.head?_cons, differ]
      rfl
    · obtain ⟨t, ts, parts⟩ := List.exists_cons_of_ne_nil (segments_ne_nil sep cs)
      simp only [segments, if_neg same, parts] at h
      cases h
      rfl

/-- The lines that are read with the mark in front. -/
theorem countP_begins_segments (other : mark ≠ lineFeed) (cs : List Char) :
    (segments lineFeed cs).countP (begins mark) =
      (if begins mark cs = true then 1 else 0) + innerStarts mark cs := by
  induction cs with
  | nil => rfl
  | cons c cs ih =>
    by_cases same : c = lineFeed
    · have front : begins mark (c :: cs) = false := by
        rw [same]
        exact beq_eq_false_iff_ne.mpr fun equal => other (Option.some.inj equal).symm
      have blank : begins mark [] = false := rfl
      rw [segments, if_pos same, List.countP_cons, ih, blank, front, innerStarts]
      simp only [same, true_and, Bool.false_eq_true, if_false, Nat.add_zero, Nat.zero_add]
    · obtain ⟨s, ss, parts⟩ := List.exists_cons_of_ne_nil (segments_ne_nil lineFeed cs)
      have first := begins_of_segments_eq_cons other parts
      have whole : begins mark (c :: s) = begins mark (c :: cs) := rfl
      rw [parts, List.countP_cons, first] at ih
      simp only [segments, same, parts, List.countP_cons, whole, innerStarts, false_and, if_false,
        Nat.zero_add]
      omega

theorem innerStarts_of_not_mem {cs : List Char} (free : lineFeed ∉ cs) :
    innerStarts mark cs = 0 := by
  induction cs with
  | nil => rfl
  | cons c cs ih =>
    have other : c ≠ lineFeed := (List.ne_of_not_mem_cons free).symm
    rw [innerStarts, ih (List.not_mem_of_not_mem_cons free)]
    simp only [other, false_and, if_false]

/-- Where two texts meet, the mark stands behind a line feed if the one ends so and the other begins
so. -/
theorem innerStarts_append (front back : List Char) :
    innerStarts mark (front ++ back) = innerStarts mark front + innerStarts mark back +
      if front.getLast? = some lineFeed ∧ begins mark back = true then 1 else 0 := by
  induction front with
  | nil => simp only [innerStarts, List.nil_append, List.getLast?_nil, reduceCtorEq, false_and,
      if_false, Nat.zero_add, Nat.add_zero]
  | cons c front ih =>
    cases front with
    | nil =>
      have blank : begins mark [] = false := rfl
      simp only [List.singleton_append, innerStarts, blank, List.getLast?_singleton,
        Option.some.injEq, Bool.false_eq_true, and_false, if_false]
      omega
    | cons d rest =>
      have tail : (c :: d :: rest).getLast? = (d :: rest).getLast? := List.getLast?_cons_cons
      have start : begins mark (d :: rest ++ back) = begins mark (d :: rest) := rfl
      rw [List.cons_append, innerStarts, innerStarts, ih, tail, start]
      omega

/-- A text in front of which there is no line feed keeps its own. -/
theorem innerStarts_append_of_not_mem {front : List Char} (free : lineFeed ∉ front)
    (back : List Char) : innerStarts mark (front ++ back) = innerStarts mark back := by
  have last : ¬(front.getLast? = some lineFeed ∧ begins mark back = true) :=
    fun both => free (List.mem_of_getLast? both.1)
  rw [innerStarts_append, innerStarts_of_not_mem free, if_neg last]
  omega

/-- So do two texts of which the second does not begin with the mark. -/
theorem innerStarts_append_of_begins {back : List Char} (free : begins mark back = false)
    (front : List Char) :
    innerStarts mark (front ++ back) = innerStarts mark front + innerStarts mark back := by
  rw [innerStarts_append, free]
  simp only [Bool.false_eq_true, and_false, if_false, Nat.add_zero]

/-! ## Texts of one line -/

@[simp] theorem oneLine_append {s t : String} : OneLine (s ++ t) ↔ OneLine s ∧ OneLine t := by
  simp only [OneLine, String.toList_append, List.mem_append, not_or]

@[simp] theorem oneLine_toString (n : Nat) : OneLine (toString n) := by
  intro mem
  have digits : (toString n).toList = Nat.toDigits 10 n := Nat.toList_repr
  rw [digits] at mem
  have digit := Nat.isDigit_of_mem_toDigits (by decide) (by decide) mem
  exact absurd digit (by decide)

end TokenBinding.Text
