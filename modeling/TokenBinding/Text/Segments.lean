/-!
# Segments of a text

Wire formats separate their parts by one character: a bundle by `?` and `;`, a compound nonce by
`&`, a compact token by `.`. This module cuts a list of characters at the first separator, at the
last one, and at every one.

Joining the segments with the separator gives the text back (`join_segments`), and no segment holds
the separator (`not_mem_of_mem_segments`).
-/

namespace TokenBinding.Text

/-- What stands before and after the first separator. -/
def cut? (sep : Char) : List Char → Option (List Char × List Char)
  | [] => none
  | c :: cs => if c = sep then some ([], cs) else (cut? sep cs).map fun p => (c :: p.1, p.2)

/-- What stands before and after the last separator. -/
def cutLast? (sep : Char) : List Char → Option (List Char × List Char)
  | [] => none
  | c :: cs =>
    match cutLast? sep cs with
    | some p => some (c :: p.1, p.2)
    | none => if c = sep then some ([], cs) else none

/-- The parts between separators: one more than there are separators. -/
def segments (sep : Char) : List Char → List (List Char)
  | [] => [[]]
  | c :: cs =>
    if c = sep then [] :: segments sep cs
    else
      match segments sep cs with
      | [] => [[c]]
      | s :: ss => (c :: s) :: ss

/-- The parts with the separator between each two. -/
def join (sep : Char) : List (List Char) → List Char
  | [] => []
  | [s] => s
  | s :: t :: ss => s ++ sep :: join sep (t :: ss)

/-- Even the empty text has a segment, an empty one. -/
theorem segments_ne_nil (sep : Char) (cs : List Char) : segments sep cs ≠ [] := by
  cases cs with
  | nil => simp [segments]
  | cons c cs =>
    simp only [segments]
    split
    · simp
    · split <;> simp

theorem join_cons_cons (sep c : Char) (s : List Char) (ss : List (List Char)) :
    join sep ((c :: s) :: ss) = c :: join sep (s :: ss) := by
  cases ss <;> simp [join]

/-- Nothing is lost by taking a text apart at its separators. -/
theorem join_segments (sep : Char) (cs : List Char) : join sep (segments sep cs) = cs := by
  induction cs with
  | nil => rfl
  | cons c cs ih =>
    have hne := segments_ne_nil sep cs
    simp only [segments]
    split
    · next h =>
      subst h
      cases hs : segments c cs with
      | nil => exact absurd hs hne
      | cons s ss => rw [hs] at ih; simp [join, ih]
    · split
      · next hs => exact absurd hs hne
      · next s ss hs => rw [join_cons_cons, ← hs, ih]

/-- No separator is left in a segment. -/
theorem not_mem_of_mem_segments {sep : Char} {cs s : List Char} (h : s ∈ segments sep cs) :
    sep ∉ s := by
  induction cs generalizing s with
  | nil => simp [segments] at h; simp [h]
  | cons c cs ih =>
    simp only [segments] at h
    split at h
    · rcases List.mem_cons.1 h with rfl | h
      · simp
      · exact ih h
    · next hc =>
      split at h
      · next hs => exact absurd hs (segments_ne_nil sep cs)
      · next t ts hs =>
        rcases List.mem_cons.1 h with rfl | h
        · have := ih (hs ▸ List.mem_cons_self)
          simp [this, Ne.symm hc]
        · exact ih (hs ▸ List.mem_cons_of_mem _ h)

end TokenBinding.Text
