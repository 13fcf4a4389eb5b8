import TokenBinding.Authorization.Simulated
import TokenBinding.Metadata.Table
import TokenBinding.Text.Blank

/-!
# A family of registered issuers

Issuers that are registered together, each with its provider, its user and what it publishes. In a
`Family` the names of the issuers differ, the display ids differ, and every user has a name. Then
each of the tables that are made of the family has one entry for each of its members: the providers
by issuer (`byIssuer?_registryOf`), the documents and key sets by address (`document_resolverOf`,
`keys_resolverOf`), and the entries of the simulated client by display id
(`entry?_ofRegistrations`).

Each is a matter of looking up a key in a list of different keys.
-/

namespace TokenBinding.Authorization.Simulated

/-! ## Different keys -/

section Lookup

variable {α β : Type}

/-- In a list of different keys a pair is found by its key. -/
theorem lookup_of_mem [BEq α] [LawfulBEq α] {l : List (α × β)} (distinct : (l.map Prod.fst).Nodup)
    {k : α} {b : β} (h : (k, b) ∈ l) : l.lookup k = some b := by
  induction l with
  | nil => cases h
  | cons p l ih =>
    rw [List.map_cons, List.nodup_cons] at distinct
    rcases List.mem_cons.mp h with rfl | later
    · rw [List.lookup_cons, beq_self_eq_true]
    · have other : k ≠ p.1 := by
        rintro rfl
        exact distinct.1 (List.mem_map.mpr ⟨_, later, rfl⟩)
      rw [List.lookup_cons, beq_eq_false_iff_ne.mpr other]
      exact ih distinct.2 later

/-- In a list of different keys an element is the first with its key. -/
theorem find?_of_mem [BEq β] [LawfulBEq β] {key : α → β} {l : List α} (distinct : (l.map key).Nodup)
    {a : α} (h : a ∈ l) : l.find? (fun x => key x == key a) = some a := by
  induction l with
  | nil => cases h
  | cons x l ih =>
    rw [List.map_cons, List.nodup_cons] at distinct
    rcases List.mem_cons.mp h with rfl | later
    · rw [List.find?_cons, beq_self_eq_true]
    · have other : key x ≠ key a := by
        intro same
        exact distinct.1 (List.mem_map.mpr ⟨a, later, same.symm⟩)
      rw [List.find?_cons, beq_eq_false_iff_ne.mpr other]
      exact ih distinct.2 later

/-- Without the pairs of a key, nothing is found by it, and by any other key what was found
before. -/
theorem lookup_filter_ne [DecidableEq α] {k k' : α} (l : List (α × β)) :
    (l.filter fun p => p.1 ≠ k).lookup k' = if k' = k then none else l.lookup k' := by
  induction l with
  | nil => rw [List.filter_nil, List.lookup_nil, ite_self]
  | cons p l ih =>
    by_cases dropped : p.1 = k
    · rw [List.filter_cons_of_neg (by simpa using dropped), ih]
      by_cases sought : k' = k
      · rw [if_pos sought, if_pos sought]
      · have skipped : (k' == p.1) = false := beq_eq_false_iff_ne.mpr (dropped ▸ sought)
        rw [if_neg sought, if_neg sought, List.lookup_cons, skipped]
    · rw [List.filter_cons_of_pos (by simpa using dropped), List.lookup_cons, List.lookup_cons, ih]
      by_cases sought : k' = k
      · have skipped : (k' == p.1) = false := by
          rw [sought]
          exact beq_eq_false_iff_ne.mpr fun same => dropped same.symm
        simp only [if_pos sought, skipped]
      · simp only [if_neg sought]

theorem nodup_map_of_inj {f : α → β} (inj : ∀ a b, f a = f b → a = b) {l : List α}
    (distinct : l.Nodup) : (l.map f).Nodup := by
  rw [List.Nodup, List.pairwise_map]
  exact distinct.imp fun differ same => differ (inj _ _ same)

end Lookup

/-! ## The family -/

/-- Issuers of different names, registered under different ids, for users who have a name. -/
structure Family (rs : List Registration) : Prop where
  issuers : (rs.map fun r => r.issuer.name).Nodup
  displayIds : (rs.map Registration.displayId).Nodup
  emails : ∀ r ∈ rs, r.email.toList.all Text.isBlank = false

/-- The providers of a family. -/
def registryOf (rs : List Registration) : Registry := ⟨rs.map Registration.provider⟩

/-- The table of what a family publishes. -/
def published (rs : List Registration) : MetadataTable :=
  rs.foldl (fun t r => t.insertIssuer r.issuer) {}

/-- The resolver that serves what a family publishes. -/
def resolverOf (rs : List Registration) : Resolver := (published rs).resolver

/-- How a registered provider is served by a client that is honest. -/
def Registration.entry (r : Registration) : Entry := { issuer := r.issuer, email := r.email }

/-- The members of a family that a selection of display ids names, in its order. -/
def selected (rs : List Registration) (ids : List String) : List Registration :=
  ids.filterMap fun id => rs.find? fun r => r.displayId == id

variable {rs : List Registration} {r : Registration}

theorem mem_of_mem_selected {ids : List String} (h : r ∈ selected rs ids) : r ∈ rs := by
  obtain ⟨id, -, found⟩ := List.mem_filterMap.mp h
  exact List.mem_of_find?_eq_some found

/-- The providers of a selection are those of the members it names. -/
theorem select_registryOf (rs : List Registration) (ids : List String) :
    (registryOf rs).select ids = (selected rs ids).map Registration.provider := by
  have byId : ∀ id, (registryOf rs).byDisplayId? id =
      (rs.find? fun r => r.displayId == id).map Registration.provider := by
    intro id
    rw [Registry.byDisplayId?, registryOf, List.find?_map]
    rfl
  rw [Registry.select, selected, List.map_filterMap]
  exact congrArg ids.filterMap (funext byId)

/-- Texts with one end are told apart by what is in front of it. -/
theorem append_text_inj (suffix : String) {s t : String} (h : s ++ suffix = t ++ suffix) :
    s = t := by
  have chars := congrArg String.toList h
  rw [String.toList_append, String.toList_append] at chars
  exact String.toList_inj.mp (List.append_cancel_right chars)

/-- The issuer of a member has the provider of that member. -/
theorem byIssuer?_registryOf (family : Family rs) (h : r ∈ rs) :
    (registryOf rs).byIssuer? r.issuer.name = some r.provider := by
  have urls : (rs.map fun r => r.issuer.name ++ discoverySuffix).Nodup := by
    have names := nodup_map_of_inj (fun _ _ => append_text_inj discoverySuffix) family.issuers
    rwa [List.map_map] at names
  have found := find?_of_mem urls h
  rw [Registry.byIssuer?, registryOf, List.find?_map]
  have same : (fun p => Provider.matchesIssuer p r.issuer.name) ∘ Registration.provider =
      fun x => x.issuer.name ++ discoverySuffix == r.issuer.name ++ discoverySuffix := rfl
  rw [same, found]
  rfl

/-! ## What a family publishes -/

/-- The tables hold an entry for each member, the later members first, and no failures. -/
theorem foldl_insertIssuer (rs : List Registration) (t : MetadataTable) :
    rs.foldl (fun t r => t.insertIssuer r.issuer) t =
      { t with
        documents := (rs.map fun r => (r.issuer.discoveryUrl, r.issuer.metadata)).reverse ++
          t.documents
        keySets := (rs.map fun r => (r.issuer.jwksUri, r.issuer.keySet)).reverse ++
          t.keySets } := by
  induction rs generalizing t with
  | nil => rfl
  | cons r rs ih =>
    rw [List.foldl_cons, ih]
    simp only [List.map_cons, List.reverse_cons, List.append_assoc, List.singleton_append]
    rfl

/-- What is published is a document and a key set for each registration. The last one comes first,
so it is found first. -/
theorem published_eq (rs : List Registration) :
    published rs =
      { documents := (rs.map fun r => (r.issuer.discoveryUrl, r.issuer.metadata)).reverse
        keySets := (rs.map fun r => (r.issuer.jwksUri, r.issuer.keySet)).reverse } := by
  rw [published, foldl_insertIssuer, List.append_nil, List.append_nil]

/-- Where each member publishes at its own address, what it publishes is found there. -/
theorem lookup_published {α : Type} (suffix : String) (serve : Registration → α)
    (family : Family rs) (h : r ∈ rs) :
    ((rs.map fun r => (r.issuer.name ++ suffix, serve r)).reverse).lookup
      (r.issuer.name ++ suffix) = some (serve r) := by
  have urls : (rs.map fun r => r.issuer.name ++ suffix).Nodup := by
    have names := nodup_map_of_inj (fun _ _ => append_text_inj suffix) family.issuers
    rwa [List.map_map] at names
  refine lookup_of_mem ?_ (List.mem_reverse.mpr (List.mem_map.mpr ⟨r, h, rfl⟩))
  rw [List.map_reverse, (List.reverse_perm _).nodup_iff, List.map_map]
  exact urls

/-- Each issuer of a family has its own document at its address. -/
theorem document_resolverOf (family : Family rs) (h : r ∈ rs) (i : Nat) :
    (resolverOf rs).document i r.issuer.discoveryUrl = .ok r.issuer.metadata := by
  have found := lookup_published discoverySuffix (fun r => r.issuer.metadata) family h
  simp only [resolverOf, published_eq, MetadataTable.resolver, Resolver.ofAddress,
    MetadataTable.answer, List.lookup_nil, Issuer.discoveryUrl]
  rw [found]

theorem keys_resolverOf (family : Family rs) (h : r ∈ rs) (i : Nat) :
    (resolverOf rs).keys i r.issuer.jwksUri = .ok r.issuer.keySet := by
  have found := lookup_published "/keys" (fun r => r.issuer.keySet) family h
  simp only [resolverOf, published_eq, MetadataTable.resolver, Resolver.ofAddress,
    MetadataTable.answer, List.lookup_nil, Issuer.jwksUri]
  rw [found]

/-! ## How a family is served -/

/-- The provider whose entry is set has that entry, and the others keep theirs. -/
theorem entry?_setEntry (s : State) (id other : String) (e : Entry) :
    State.entry? (s.setEntry id e) other = if other = id then some e else s.entry? other := by
  rw [State.entry?, State.setEntry, List.lookup_cons]
  by_cases same : other = id
  · rw [if_pos same, beq_iff_eq.mpr same]
  · rw [if_neg same, beq_eq_false_iff_ne.mpr same]
    exact (lookup_filter_ne s.providers).trans (if_neg same)

/-- A registration adds one entry, or replaces the one of that name, and leaves all others. -/
theorem entry?_register (s : State) (id other : String) (i : Issuer) (email : String) :
    State.entry? (s.register id i email) other =
      if other = id then some { issuer := i, email := email } else s.entry? other :=
  entry?_setEntry s id other _

/-- Registering others changes nothing for an id. -/
theorem entry?_foldl_register {id : String} (absent : id ∉ rs.map Registration.displayId)
    (s : State) :
    State.entry? (rs.foldl (fun s r => s.register r.displayId r.issuer r.email) s) id =
      s.entry? id := by
  induction rs generalizing s with
  | nil => rfl
  | cons r rs ih =>
    rw [List.foldl_cons, ih (List.not_mem_of_not_mem_cons absent), entry?_register,
      if_neg (List.ne_of_not_mem_cons absent)]

/-- Each member of a family is served by its own issuer. Members have different names, so no
registration takes the place of an earlier one. -/
theorem entry?_ofRegistrations (family : Family rs) (h : r ∈ rs) :
    State.entry? (.ofRegistrations rs) r.displayId = some r.entry := by
  have folded : ∀ (rs : List Registration), (rs.map Registration.displayId).Nodup → r ∈ rs →
      ∀ s : State,
        State.entry? (rs.foldl (fun s r => s.register r.displayId r.issuer r.email) s) r.displayId =
          some r.entry := by
    intro rs distinct mem s
    induction rs generalizing s with
    | nil => cases mem
    | cons first rs ih =>
      rw [List.map_cons, List.nodup_cons] at distinct
      rw [List.foldl_cons]
      rcases List.mem_cons.mp mem with rfl | later
      · rw [entry?_foldl_register distinct.1, entry?_register, if_pos rfl]
        rfl
      · exact ih distinct.2 later _
  exact folded rs family.displayIds h {}

end TokenBinding.Authorization.Simulated
