import TokenBinding.Text.Segments

/-!
# Parts that are put together and cut apart

A format that joins parts with a separator is read back if no part holds the separator. The cuts
differ in how much they ask for: `cut?` needs the front to be free of it, `cutLast?` the back,
and `segments` every part: the segments of joined parts are those of each part, in a row
(`segments_join_eq_flatMap`). A text with one separator has two segments, however it is cut
(`CutOnce`).
-/

namespace TokenBinding.Text

variable {sep : Char}

/-- There is nothing to cut at in a text without the separator. -/
theorem cut?_eq_none {cs : List Char} (free : sep ∉ cs) : cut? sep cs = none := by
  induction cs with
  | nil => rfl
  | cons c cs ih =>
    have other : c ≠ sep := (List.ne_of_not_mem_cons free).symm
    have later := ih (List.not_mem_of_not_mem_cons free)
    simp only [cut?, later, if_neg other, Option.map_none]

/-- A text is cut at the first separator. What is behind it may have more of them. -/
theorem cut?_append {front : List Char} (free : sep ∉ front) (back : List Char) :
    cut? sep (front ++ sep :: back) = some (front, back) := by
  induction front with
  | nil => simp only [List.nil_append, cut?, if_true]
  | cons c front ih =>
    have other : c ≠ sep := (List.ne_of_not_mem_cons free).symm
    have later := ih (List.not_mem_of_not_mem_cons free)
    simp only [List.cons_append, cut?, if_neg other, later, Option.map_some]

theorem cutLast?_eq_none {cs : List Char} (free : sep ∉ cs) : cutLast? sep cs = none := by
  induction cs with
  | nil => rfl
  | cons c cs ih =>
    have other : c ≠ sep := (List.ne_of_not_mem_cons free).symm
    have later := ih (List.not_mem_of_not_mem_cons free)
    simp only [cutLast?, later, if_neg other]

/-- From behind, a text is cut at the last separator. What is in front of it may have more of
them. -/
theorem cutLast?_append (front : List Char) {back : List Char} (free : sep ∉ back) :
    cutLast? sep (front ++ sep :: back) = some (front, back) := by
  induction front with
  | nil => simp only [List.nil_append, cutLast?, cutLast?_eq_none free, if_true]
  | cons c front ih => simp only [List.cons_append, cutLast?, ih]

/-- Without a separator there is one segment, the text itself. -/
theorem segments_of_not_mem {cs : List Char} (free : sep ∉ cs) : segments sep cs = [cs] := by
  induction cs with
  | nil => rfl
  | cons c cs ih =>
    have other : c ≠ sep := (List.ne_of_not_mem_cons free).symm
    have later := ih (List.not_mem_of_not_mem_cons free)
    simp only [segments, if_neg other, later]

/-- A separator parts the segments in front of it from those behind it. -/
theorem segments_append_cons (front back : List Char) :
    segments sep (front ++ sep :: back) = segments sep front ++ segments sep back := by
  induction front with
  | nil => simp only [List.nil_append, segments, if_true, List.cons_append]
  | cons c front ih =>
    by_cases same : c = sep
    · simp only [List.cons_append, segments, if_pos same, ih]
    · obtain ⟨s, ss, parts⟩ := List.exists_cons_of_ne_nil (segments_ne_nil sep front)
      simp only [List.cons_append, segments, if_neg same, ih, parts]

/-- Behind the first separator the segments are those of the rest. -/
theorem segments_append {front : List Char} (free : sep ∉ front) (back : List Char) :
    segments sep (front ++ sep :: back) = front :: segments sep back := by
  rw [segments_append_cons, segments_of_not_mem free, List.singleton_append]

/-- The segments of joined parts are those of each part, in a row. -/
theorem segments_join_eq_flatMap {parts : List (List Char)} (some_part : parts ≠ []) :
    segments sep (join sep parts) = parts.flatMap (segments sep) := by
  induction parts with
  | nil => exact absurd rfl some_part
  | cons p parts ih =>
    cases parts with
    | nil => simp only [join, List.flatMap_cons, List.flatMap_nil, List.append_nil]
    | cons p' parts =>
      have later := ih (List.cons_ne_nil p' parts)
      rw [join, segments_append_cons, later, ← List.flatMap_cons]

/-- A character of joined parts is one of a part, or the separator. -/
theorem mem_join {c : Char} {parts : List (List Char)} (h : c ∈ join sep parts) :
    c = sep ∨ ∃ p ∈ parts, c ∈ p := by
  induction parts with
  | nil => cases h
  | cons p parts ih =>
    cases parts with
    | nil => exact .inr ⟨p, List.mem_cons_self, h⟩
    | cons p' parts =>
      rcases List.mem_append.mp h with inside | behind
      · exact .inr ⟨p, List.mem_cons_self, inside⟩
      · rcases List.mem_cons.mp behind with rfl | later
        · exact .inl rfl
        · rcases ih later with rfl | ⟨q, mem, inside⟩
          · exact .inl rfl
          · exact .inr ⟨q, List.mem_cons_of_mem p mem, inside⟩

/-- Every character of a part is one of the joined parts. -/
theorem mem_join_of_mem {c : Char} {p : List Char} {parts : List (List Char)} (part : p ∈ parts)
    (h : c ∈ p) : c ∈ join sep parts := by
  induction parts with
  | nil => cases part
  | cons q parts ih =>
    cases parts with
    | nil =>
      obtain rfl := List.mem_singleton.mp part
      exact h
    | cons q' parts =>
      rcases List.mem_cons.mp part with rfl | later
      · exact List.mem_append_left _ h
      · exact List.mem_append_right _ (List.mem_cons_of_mem sep (ih later))

theorem not_mem_of_cutLast?_eq_none {cs : List Char} (h : cutLast? sep cs = none) : sep ∉ cs := by
  induction cs with
  | nil => exact List.not_mem_nil
  | cons c cs ih =>
    simp only [cutLast?] at h
    split at h
    · cases h
    · next later =>
      split at h
      · cases h
      · next other => exact List.not_mem_cons_of_ne_of_not_mem (Ne.symm other) (ih later)

/-- The last cut takes a text apart at a separator, with none behind it. -/
theorem cutLast?_eq_some {cs front back : List Char} (h : cutLast? sep cs = some (front, back)) :
    cs = front ++ sep :: back ∧ sep ∉ back := by
  induction cs generalizing front back with
  | nil => cases h
  | cons c cs ih =>
    simp only [cutLast?] at h
    split at h
    · next p later =>
      cases h
      obtain ⟨shape, free⟩ := ih later
      exact ⟨congrArg (c :: ·) shape, free⟩
    · next later =>
      split at h
      · next same =>
        cases h
        exact ⟨congrArg (· :: cs) same, not_mem_of_cutLast?_eq_none later⟩
      · cases h

/-! ## One separator -/

/-- The text has one separator, with `front` before it and `back` behind it. -/
structure CutOnce (sep : Char) (cs front back : List Char) : Prop where
  whole : cs = front ++ sep :: back
  front_free : sep ∉ front
  back_free : sep ∉ back

/-- A text that is cut once has two segments. -/
theorem CutOnce.segments_eq {cs front back : List Char} (h : CutOnce sep cs front back) :
    segments sep cs = [front, back] := by
  rw [h.whole, segments_append h.front_free, segments_of_not_mem h.back_free]

/-- A text of two segments is cut once. -/
theorem cutOnce_of_segments_eq {cs front back : List Char} (h : segments sep cs = [front, back]) :
    CutOnce sep cs front back := by
  have free : ∀ s ∈ [front, back], sep ∉ s := fun s mem => not_mem_of_mem_segments (h ▸ mem)
  refine ⟨?_, free front (by simp), free back (by simp)⟩
  rw [← join_segments sep cs, h]
  rfl

/-- There is one way to cut a text once. -/
theorem CutOnce.unique {cs front back front' back' : List Char} (h : CutOnce sep cs front back)
    (h' : CutOnce sep cs front' back') : front = front' ∧ back = back' := by
  have same := h.segments_eq.symm.trans h'.segments_eq
  simpa only [List.cons.injEq, and_true] using same

/-- A text can be cut at its one separator if the separator occurs once. -/
theorem exists_cutOnce_iff {cs : List Char} :
    (∃ front back, CutOnce sep cs front back) ↔ cs.count sep = 1 := by
  constructor
  · rintro ⟨front, back, rfl, freeFront, freeBack⟩
    rw [List.count_append, List.count_cons_self, List.count_eq_zero_of_not_mem freeFront,
      List.count_eq_zero_of_not_mem freeBack]
  · intro once
    have inside : sep ∈ cs := List.count_pos_iff.mp (by omega)
    obtain ⟨front, back, rfl, free⟩ := List.eq_append_cons_of_mem inside
    refine ⟨front, back, rfl, free, ?_⟩
    rw [List.count_append, List.count_cons_self, List.count_eq_zero_of_not_mem free] at once
    exact List.count_eq_zero.mp (by omega)

end TokenBinding.Text
