import TokenBinding.Proofs.Json.Tree

/-!
# Sorted members

Sorting the members of an object loses nothing as long as their names differ: it is a permutation
(`sortMembers_perm`). What is looked up by name is therefore found in the sorted object as in the
one that was sorted. No order of the names is needed for that.
-/

namespace TokenBinding.Json.Value

/-- After a member is inserted there is no member but this and those from before. -/
theorem mem_insertMember {name : String} {v : Value} {ms : List (String × Value)}
    {m : String × Value} (h : m ∈ insertMember name v ms) : m = (name, v) ∨ m ∈ ms := by
  induction ms with
  | nil => exact .inl (List.mem_singleton.mp h)
  | cons other ms ih =>
    rw [insertMember] at h
    split at h
    · exact List.mem_cons.mp h
    · split at h
      · rcases List.mem_cons.mp h with new | old
        · exact .inl new
        · exact .inr (List.mem_cons_of_mem other old)
      · rcases List.mem_cons.mp h with first | later
        · exact .inr (first ▸ List.mem_cons_self)
        · rcases ih later with new | old
          · exact .inl new
          · exact .inr (List.mem_cons_of_mem other old)

/-- A member with a new name is put somewhere among the others. -/
theorem insertMember_perm {name : String} (v : Value) {ms : List (String × Value)}
    (new : name ∉ ms.map Prod.fst) : (insertMember name v ms).Perm ((name, v) :: ms) := by
  induction ms with
  | nil => exact .refl _
  | cons m ms ih =>
    have other : name ≠ m.1 := List.ne_of_not_mem_cons new
    have later := ih (List.not_mem_of_not_mem_cons new)
    rw [insertMember]
    by_cases before : name < m.1
    · rw [if_pos before]
    · rw [if_neg before, if_neg other]
      exact (later.cons m).trans (.swap (name, v) m ms)

/-- Sorting takes members out of the object only. -/
theorem mem_of_mem_sortMembers {ms : List (String × Value)} {m : String × Value}
    (h : m ∈ sortMembers ms) : m ∈ ms := by
  have folded : ∀ (ms sorted : List (String × Value)),
      m ∈ ms.foldl (fun sorted m => insertMember m.1 m.2 sorted) sorted → m ∈ ms ∨ m ∈ sorted := by
    intro ms
    induction ms with
    | nil => exact fun _ mem => .inr mem
    | cons first ms ih =>
      intro sorted mem
      rcases ih _ mem with later | before
      · exact .inl (List.mem_cons_of_mem first later)
      · rcases mem_insertMember before with same | old
        · exact .inl (same ▸ List.mem_cons_self)
        · exact .inr old
  rcases folded ms [] h with mem | mem
  · exact mem
  · cases mem

/-- Members of different names are all there when they are sorted. -/
theorem sortMembers_perm {ms : List (String × Value)} (distinct : (ms.map Prod.fst).Nodup) :
    (sortMembers ms).Perm ms := by
  have folded : ∀ (ms sorted : List (String × Value)), ((sorted ++ ms).map Prod.fst).Nodup →
      (ms.foldl (fun sorted m => insertMember m.1 m.2 sorted) sorted).Perm (sorted ++ ms) := by
    intro ms
    induction ms with
    | nil =>
      intro sorted _
      rw [List.append_nil]
      exact .refl _
    | cons m ms ih =>
      intro sorted distinct
      have moved : ((m :: sorted) ++ ms).Perm (sorted ++ m :: ms) := List.perm_middle.symm
      have new : m.1 ∉ sorted.map Prod.fst := by
        have front := (moved.map Prod.fst).nodup_iff.mpr distinct
        rw [List.cons_append, List.map_cons, List.nodup_cons, List.map_append] at front
        exact fun mem => front.1 (List.mem_append_left _ mem)
      have put : (insertMember m.1 m.2 sorted).Perm (m :: sorted) := insertMember_perm m.2 new
      have whole : (insertMember m.1 m.2 sorted ++ ms).Perm (sorted ++ m :: ms) :=
        (put.append_right ms).trans moved
      exact (ih _ ((whole.map Prod.fst).nodup_iff.mpr distinct)).trans whole
  exact folded ms [] distinct

/-- Members are made canonical one by one, and keep their names. -/
theorem canonicalMembers_eq_map (ms : List (String × Value)) :
    canonicalMembers ms = ms.map fun m => (m.1, m.2.canonical) := by
  induction ms with
  | nil => rfl
  | cons m ms ih => rw [canonicalMembers, ih, List.map_cons]

theorem exactMembers_iff {ms : List (String × Value)} :
    ExactMembers ms ↔ ∀ m ∈ ms, m.2.Exact := by
  induction ms with
  | nil => exact ⟨fun _ => nofun, fun _ => trivial⟩
  | cons m ms ih => rw [ExactMembers, ih, List.forall_mem_cons]

mutual
/-- Sorting changes no number. -/
theorem exact_canonical {v : Value} (h : v.Exact) : v.canonical.Exact := by
  cases v with
  | array items =>
    rw [canonical]
    exact exactItems_canonical h
  | object members =>
    rw [canonical]
    refine exactMembers_iff.mpr fun m mem => ?_
    exact exactMembers_iff.mp (exactMembers_canonical h) m (mem_of_mem_sortMembers mem)
  | _ => exact h
theorem exactItems_canonical {items : List Value} (h : ExactItems items) :
    ExactItems (canonicalItems items) := by
  cases items with
  | nil => exact h
  | cons v rest => exact ⟨exact_canonical h.1, exactItems_canonical h.2⟩
theorem exactMembers_canonical {members : List (String × Value)} (h : ExactMembers members) :
    ExactMembers (canonicalMembers members) := by
  cases members with
  | nil => exact h
  | cons m rest => exact ⟨exact_canonical h.1, exactMembers_canonical h.2⟩
end

end TokenBinding.Json.Value
