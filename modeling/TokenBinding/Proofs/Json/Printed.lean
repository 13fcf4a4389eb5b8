import TokenBinding.Json.Document
import TokenBinding.Proofs.Json.Canonical

/-!
# Documents that were printed

An object that was printed is read back as the document of its members (`parse?_printed`), and a
member is found in it by its name, as long as the names differ. For an object that was sorted before
it was printed the members may be looked up in the unsorted one (`node?_ofSorted`).
-/

namespace TokenBinding.Json.Document

open Value (sortMembers canonicalMembers)

/-- The document of these members. -/
def ofPrinted (ms : List (String × Value)) : Document := ⟨ms.map fun m => (m.1, m.2.node)⟩

/-! ## Reading -/

/-- Every member that was printed has a name that can be read. -/
theorem nameEntries?_memberNodes (ms : List (String × Value)) :
    nameEntries? (Value.memberNodes ms) = some (ms.map fun m => (m.1, m.2.node)) := by
  induction ms with
  | nil => rfl
  | cons m ms ih => rw [Value.memberNodes, nameEntries?, ih, Option.map_some, List.map_cons]

/-- The node of an object is the document of its members. -/
theorem ofNode?_object (ms : List (String × Value)) :
    ofNode? (Value.object ms).node = some (ofPrinted ms) := by
  rw [Value.node, ofNode?, nameEntries?_memberNodes, Option.map_some]
  rfl

/-- An object that is printed is the text of the document of its members. -/
theorem parse?_printed {ms : List (String × Value)} (exact : (Value.object ms).Exact) :
    parse? (Bytes.ofText (Value.object ms).compact) = some (ofPrinted ms) := by
  rw [parse?, Value.parse?_compact exact, Option.bind_some, ofNode?_object]

/-- It is that also to a reader who would take an array. -/
theorem parseLaid?_printed {ms : List (String × Value)} (exact : (Value.object ms).Exact)
    (layout : List String) :
    parseLaid? layout (Bytes.ofText (Value.object ms).compact) = some (ofPrinted ms) := by
  rw [parseLaid?, Value.parse?_compact exact, Option.bind_some, ← ofNode?_object]
  rfl

/-! ## Looking up -/

variable {ms : List (String × Value)} {name : String} {v : Value}

theorem filter_name_of_not_mem (absent : name ∉ ms.map Prod.fst) :
    ms.filter (fun m => m.1 = name) = [] := by
  rw [List.filter_eq_nil_iff]
  intro m mem same
  exact absent (List.mem_map.mpr ⟨m, mem, of_decide_eq_true same⟩)

/-- Of members with different names, one has the name of a member. -/
theorem filter_name_of_mem (distinct : (ms.map Prod.fst).Nodup) (h : (name, v) ∈ ms) :
    ms.filter (fun m => m.1 = name) = [(name, v)] := by
  induction ms with
  | nil => cases h
  | cons m ms ih =>
    rw [List.map_cons, List.nodup_cons] at distinct
    rcases List.mem_cons.mp h with rfl | later
    · have others := filter_name_of_not_mem distinct.1
      simp only [List.filter_cons, decide_true, if_true, others]
    · have other : m.1 ≠ name := by
        intro same
        exact distinct.1 (List.mem_map.mpr ⟨(name, v), later, same.symm⟩)
      simp only [List.filter_cons, decide_eq_false other, Bool.false_eq_true, if_false]
      exact ih distinct.2 later

/-- A name stands in the document as often as it does among the members. -/
theorem occurrences_ofPrinted (ms : List (String × Value)) (name : String) :
    (ofPrinted ms).occurrences name =
      (ms.filter fun m => m.1 = name).map fun m => m.2.node := by
  rw [occurrences, ofPrinted, List.filter_map, List.map_map]
  rfl

/-- A member that stands there once is found under its name, with its value. -/
theorem node?_ofPrinted (distinct : (ms.map Prod.fst).Nodup) (h : (name, v) ∈ ms) :
    (ofPrinted ms).node? name = some (some v.node) := by
  rw [node?, occurrences_ofPrinted, filter_name_of_mem distinct h]
  rfl

/-- A name that no member has is found to be absent, which is no error. -/
theorem node?_ofPrinted_of_not_mem (h : name ∉ ms.map Prod.fst) :
    (ofPrinted ms).node? name = some none := by
  rw [node?, occurrences_ofPrinted, filter_name_of_not_mem h]
  rfl

/-- A text is found as it was printed. -/
theorem textMember?_of_node? {d : Document} {s : String}
    (h : d.node? name = some (some (Value.text s).node)) : d.textMember? name = some (some s) := by
  rw [textMember?, member?, h]
  rfl

/-! ## Sorted objects -/

/-- The document of the members when they are sorted. -/
def ofSorted (ms : List (String × Value)) : Document :=
  ofPrinted (sortMembers (canonicalMembers ms))

/-- The canonical text of an object is read as its members, in sorted order. -/
theorem parse?_canonical (exact : (Value.object ms).Exact) :
    parse? (Bytes.ofText (Value.object ms).canonical.compact) = some (ofSorted ms) := by
  have sorted := Value.exact_canonical exact
  rw [Value.canonical] at sorted ⊢
  exact parse?_printed sorted

/-- To bring the values into canonical form changes no name. -/
theorem map_fst_canonicalMembers (ms : List (String × Value)) :
    (canonicalMembers ms).map Prod.fst = ms.map Prod.fst := by
  rw [Value.canonicalMembers_eq_map, List.map_map]
  rfl

variable (distinct : (ms.map Prod.fst).Nodup)

include distinct

theorem sortMembers_canonicalMembers_perm :
    (sortMembers (canonicalMembers ms)).Perm (canonicalMembers ms) :=
  Value.sortMembers_perm (by rw [map_fst_canonicalMembers]; exact distinct)

/-- No name is doubled by sorting. -/
theorem nodup_sorted_names : ((sortMembers (canonicalMembers ms)).map Prod.fst).Nodup := by
  rw [((sortMembers_canonicalMembers_perm distinct).map Prod.fst).nodup_iff,
    map_fst_canonicalMembers]
  exact distinct

/-- A member is found in the sorted document with its own value sorted. -/
theorem node?_ofSorted (h : (name, v) ∈ ms) :
    (ofSorted ms).node? name = some (some v.canonical.node) := by
  refine node?_ofPrinted (nodup_sorted_names distinct) ?_
  rw [(sortMembers_canonicalMembers_perm distinct).mem_iff, Value.canonicalMembers_eq_map]
  exact List.mem_map.mpr ⟨(name, v), h, rfl⟩

/-- Sorting brings in no name. -/
theorem node?_ofSorted_of_not_mem (h : name ∉ ms.map Prod.fst) :
    (ofSorted ms).node? name = some none := by
  refine node?_ofPrinted_of_not_mem ?_
  rw [((sortMembers_canonicalMembers_perm distinct).map Prod.fst).mem_iff, map_fst_canonicalMembers]
  exact h

end TokenBinding.Json.Document
