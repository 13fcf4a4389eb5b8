import TokenBinding.Json.Document
import TokenBinding.Proofs.Json.Count
import TokenBinding.Proofs.Json.Grammar

/-!
# The members of a document

A document is read from the text of an object, and what it says is in the names of the members and
the texts of their values (`ObjectText`, `parse?_of_objectText`). What a value reads as is settled
by its text: `null`, a whole number and a text are each read from one kind of text and from no other
(`read_eq_null_iff`, `read_eq_natural_iff`, `read_eq_text_iff`).

So when the reading of an optional member is refused can be said without any tree: the member stands
twice, or it stands there with a text of another kind (`countMember?_eq_none_iff`,
`textMember?_eq_none_iff`).
-/

namespace TokenBinding.Json

/-! ## What a value reads as -/

section Values

variable {n : Node} {text : Bytes} {v : Value}

theorem Node.eq_array_of_read {items : List Node} (h : (Node.array items).read = .ok v) :
    ∃ values, v = .array values := by
  unfold Node.read at h
  split at h
  · rw [Node.value] at h
    cases read : Node.itemValues items with
    | ok values =>
      rw [read] at h
      cases h
      exact ⟨values, rfl⟩
    | error stop =>
      rw [read] at h
      cases h
  · cases h

theorem Node.eq_object_of_read {entries : List (Reading String × Node)}
    (h : (Node.object entries).read = .ok v) : ∃ members, v = .object members := by
  unfold Node.read at h
  split at h
  · rw [Node.value] at h
    cases read : Node.entryValues entries with
    | ok members =>
      rw [read] at h
      cases h
      exact ⟨members, rfl⟩
    | error stop =>
      rw [read] at h
      cases h
  · cases h

/-- A value that is read has the text of a literal or of a word, or is an array or object. -/
theorem Written.cases_of_read (h : Written (.value n) text) (read : n.read = .ok v) :
    (∃ s, v = .text s ∧ Literal text (.ok s)) ∨ Word text (.ok v) ∨
      (∃ values, v = .array values) ∨ ∃ members, v = .object members := by
  cases h with
  | @literal s _ own =>
    cases s with
    | ok s =>
      cases read
      exact .inl ⟨s, rfl, own⟩
    | error stop => cases read
  | @word r _ own =>
    obtain rfl : r = .ok v := read
    exact .inr (.inl own)
  | emptyArray _ => exact .inr (.inr (.inl (Node.eq_array_of_read read)))
  | array _ => exact .inr (.inr (.inl (Node.eq_array_of_read read)))
  | emptyObject _ => exact .inr (.inr (.inr (Node.eq_object_of_read read)))
  | object _ => exact .inr (.inr (.inr (Node.eq_object_of_read read)))

/-- Nothing is read from one word and no other text. -/
theorem Written.read_eq_null_iff (h : Written (.value n) text) :
    n.read = .ok .null ↔ text = Bytes.ofText "null" := by
  constructor
  · intro read
    rcases h.cases_of_read read with ⟨_, made, -⟩ | word | ⟨_, made⟩ | ⟨_, made⟩
    · cases made
    · rcases Token.scalar?_eq_ok word.2 with ⟨-, named⟩ | ⟨_, made⟩ | ⟨_, made⟩ | ⟨_, made, -⟩
      · exact named
      · cases made
      · cases made
      · cases made
    · cases made
    · cases made
  · rintro rfl
    -- The text is that of a word, and is written from no other value.
    have word : Word (Bytes.ofText "null") (.ok .null) := ⟨List.all_eq_true.mp rfl, rfl⟩
    obtain rfl := h.unique (.word word)
    rfl

/-- A whole number of 64 bits is read from its decimal text and no other. -/
theorem Written.read_eq_natural_iff (h : Written (.value n) text) {k : Nat} :
    n.read = .ok (.integer k) ↔ text = Bytes.ofText (toString k) ∧ k < UInt64.size := by
  have decimal : Bytes.ofText (toString k) = Token.decimal k := Token.ofChars_repr k
  rw [decimal, ← Token.scalar?_eq_natural_iff]
  constructor
  · intro read
    rcases h.cases_of_read read with ⟨_, made, -⟩ | word | ⟨_, made⟩ | ⟨_, made⟩
    · cases made
    · exact word.2
    · cases made
    · cases made
  · intro scalar
    have bytes : ∀ b ∈ text, Token.isWordByte b = true := by
      intro b mem
      apply Token.isWordByte_of_mem_integerBytes (n := (k : Int))
      rw [Token.integerBytes_nonneg (Int.natCast_nonneg k)]
      exact (Token.scalar?_eq_natural_iff.mp scalar).1 ▸ mem
    obtain rfl := h.unique (.word ⟨bytes, scalar⟩)
    rfl

/-- A text is read from the literals that spell it and from nothing else. -/
theorem Written.read_eq_text_iff (h : Written (.value n) text) {s : String} :
    n.read = .ok (.text s) ↔ Literal text (.ok s) := by
  constructor
  · intro read
    rcases h.cases_of_read read with ⟨_, made, own⟩ | word | ⟨_, made⟩ | ⟨_, made⟩
    · cases made
      exact own
    · rcases Token.scalar?_eq_ok word.2 with ⟨made, -⟩ | ⟨_, made⟩ | ⟨_, made⟩ | ⟨_, made, -⟩
      · cases made
      · cases made
      · cases made
      · cases made
    · cases made
    · cases made
  · intro own
    obtain rfl := h.unique (.literal own)
    rfl

end Values

/-! ## Objects -/

/-- The entry is this member: its name is a text, and its value is written so. -/
def WrittenEntry.Is (e : WrittenEntry) (m : String × Bytes) : Prop :=
  e.name = .ok m.1 ∧ e.text = m.2

/-- The text of an object with these members, each a name and the text of its value. -/
def ObjectText (bs : Bytes) (members : List (String × Bytes)) : Prop :=
  ∃ es inner, Padded (123 :: (inner ++ [125])) bs ∧
    (es = [] ∧ Blank inner ∨ Written (.entries es) inner) ∧
    List.Forall₂ WrittenEntry.Is es members

/-- The texts of all values of this name. -/
def textsOf (members : List (String × Bytes)) (name : String) : List Bytes :=
  (members.filter fun m => m.1 = name).map (·.2)

/-- The text of an object is braces around nothing but blanks, or around the texts of its
entries. -/
theorem Written.exists_entries {text : Bytes} {entries : List (Reading String × Node)}
    (h : Written (.value (.object entries)) text) :
    ∃ es inner, text = 123 :: (inner ++ [125]) ∧ entries = es.map WrittenEntry.entry ∧
      (es = [] ∧ Blank inner ∨ Written (.entries es) inner) := by
  generalize made : Part.value (.object entries) = part at h
  cases h with
  | @emptyObject gap blank =>
    cases made
    exact ⟨[], gap, rfl, rfl, .inl ⟨rfl, blank⟩⟩
  | @object es inner own =>
    cases made
    exact ⟨es, inner, rfl, rfl, .inr own⟩
  | _ => cases made

/-- The value of each entry is written in the text of the entry. -/
theorem Written.value_of_mem {es : List WrittenEntry} {bs : Bytes} (h : Written (.entries es) bs)
    {e : WrittenEntry} (mem : e ∈ es) : Written (.value e.node) e.text := by
  induction es generalizing bs with
  | nil => cases mem
  | cons e' es ih =>
    cases h with
    | lastEntry named own pad =>
      obtain rfl := List.mem_singleton.mp mem
      exact own
    | entry named own pad later =>
      rcases List.mem_cons.mp mem with rfl | mem
      · exact own
      · exact ih later mem

namespace Document

/-- The member of the document has the name that is given, and the value that is written so. -/
def IsWritten (m : String × Bytes) (found : String × Node) : Prop :=
  found.1 = m.1 ∧ Written (.value found.2) m.2

variable {bs : Bytes} {d : Document} {members : List (String × Bytes)} {name : String}
  {es : List WrittenEntry} {ms : List (String × Node)}

/-- Entries are members if their names are texts. -/
theorem exists_members_of_nameEntries? (h : nameEntries? (es.map WrittenEntry.entry) = some ms) :
    ∃ members, List.Forall₂ WrittenEntry.Is es members := by
  induction es generalizing ms with
  | nil => exact ⟨[], .nil⟩
  | cons e es ih =>
    obtain ⟨name | name, text, n⟩ := e
    · cases h
    · obtain ⟨ms, named, -⟩ := Option.map_eq_some_iff.mp h
      obtain ⟨members, others⟩ := ih named
      exact ⟨(name, text) :: members, .cons ⟨rfl, rfl⟩ others⟩

/-- And the members of the document are as they are written. -/
theorem nameEntries?_of_members (same : List.Forall₂ WrittenEntry.Is es members)
    (own : ∀ e ∈ es, Written (.value e.node) e.text) :
    ∃ ms, nameEntries? (es.map WrittenEntry.entry) = some ms ∧
      List.Forall₂ IsWritten members ms := by
  induction same with
  | nil => exact ⟨[], rfl, .nil⟩
  | @cons e m es members is others ih =>
    obtain ⟨first, later⟩ := List.forall_mem_cons.mp own
    obtain ⟨ms, named, written⟩ := ih later
    refine ⟨(m.1, e.node) :: ms, ?_, .cons ⟨rfl, is.2 ▸ first⟩ written⟩
    simp only [List.map_cons, WrittenEntry.entry, is.1, nameEntries?]
    rw [named, Option.map_some]

/-- A document is read from the text of an object. -/
theorem exists_objectText_of_parse? (h : parse? bs = some d) :
    ∃ members, ObjectText bs members := by
  obtain ⟨n, tree, object⟩ := Option.bind_eq_some_iff.mp h
  obtain ⟨text, pad, own⟩ := Node.parse?_eq_some_iff.mp tree
  cases n with
  | object entries =>
    obtain ⟨ms, named, -⟩ := Option.map_eq_some_iff.mp object
    obtain ⟨es, inner, rfl, rfl, inside⟩ := own.exists_entries
    obtain ⟨members, same⟩ := exists_members_of_nameEntries? named
    exact ⟨members, es, inner, pad, inside, same⟩
  | _ => cases object

/-- From the text of an object the document of its members is read. -/
theorem parse?_of_objectText (h : ObjectText bs members) :
    ∃ d, parse? bs = some d ∧ List.Forall₂ IsWritten members d.members := by
  obtain ⟨es, inner, pad, inside, same⟩ := h
  have object : Written (.value (.object (es.map WrittenEntry.entry))) (123 :: (inner ++ [125])) ∧
      ∀ e ∈ es, Written (.value e.node) e.text := by
    rcases inside with ⟨rfl, blank⟩ | own
    · exact ⟨.emptyObject blank, nofun⟩
    · exact ⟨.object own, fun e mem => own.value_of_mem mem⟩
  have tree : Node.parse? bs = some (.object (es.map WrittenEntry.entry)) :=
    Node.parse?_eq_some_iff.mpr ⟨_, pad, object.1⟩
  obtain ⟨ms, named, written⟩ := nameEntries?_of_members same object.2
  refine ⟨⟨ms⟩, ?_, written⟩
  rw [parse?, tree, Option.bind_some, ofNode?, named, Option.map_some]

/-! ## Looking up -/

/-- The values of a name are written in its texts. -/
theorem forall₂_occurrences (written : List.Forall₂ IsWritten members d.members) (name : String) :
    List.Forall₂ (fun text n => Written (.value n) text) (textsOf members name)
      (d.occurrences name) := by
  unfold textsOf occurrences
  generalize d.members = ms at written ⊢
  induction written with
  | nil => exact .nil
  | @cons m found members ms is others ih =>
    by_cases own : m.1 = name
    · have own' : found.1 = name := is.1.trans own
      simp only [List.filter_cons, own, own', decide_true, if_true, List.map_cons]
      exact .cons is.2 ih
    · have own' : found.1 ≠ name := fun same => own (is.1.symm.trans same)
      simp only [List.filter_cons, own, own', decide_false, Bool.false_eq_true, if_false]
      exact ih

/-- A name has no text, or one that the value of the member is written in, or several. -/
theorem node?_cases (written : List.Forall₂ IsWritten members d.members) (name : String) :
    (textsOf members name = [] ∧ d.node? name = some none) ∨
      (∃ text n, textsOf members name = [text] ∧ Written (.value n) text ∧
        d.node? name = some (some n)) ∨
      1 < (textsOf members name).length ∧ d.node? name = none := by
  have values := forall₂_occurrences written name
  unfold node?
  generalize textsOf members name = texts at values ⊢
  generalize d.occurrences name = ns at values ⊢
  match values with
  | .nil => exact .inl ⟨rfl, rfl⟩
  | .cons own .nil => exact .inr (.inl ⟨_, _, rfl, own, rfl⟩)
  | .cons _ (.cons _ _) => exact .inr (.inr ⟨by simp only [List.length_cons]; omega, rfl⟩)

/-- A member may not be read if its name has several texts. -/
theorem node?_eq_none_iff (written : List.Forall₂ IsWritten members d.members) :
    d.node? name = none ↔ 1 < (textsOf members name).length := by
  rcases node?_cases written name with ⟨none, absent⟩ | ⟨text, n, one, -, found⟩ |
    ⟨several, refused⟩
  · simp [none, absent]
  · simp [one, found]
  · simp [several, refused]

/-- A value is refused as a whole number of 64 bits if it is read as anything else but nothing. -/
theorem countMember?_refused_iff {n : Node} (found : d.node? name = some (some n)) :
    d.countMember? name = none ↔
      n.read ≠ .ok .null ∧ ∀ k : Nat, k < UInt64.size → n.read ≠ .ok (.integer k) := by
  simp only [countMember?, member?, found]
  cases n.read with
  | error stop => simp only [ne_eq, reduceCtorEq, not_false_eq_true, implies_true, and_self]
  | ok v =>
    cases v with
    | null => simp only [ne_eq, reduceCtorEq, not_true_eq_false, false_and]
    | integer i =>
      cases i with
      | ofNat m =>
        by_cases fits : m < UInt64.size
        · simp only [if_pos fits, reduceCtorEq, false_iff, not_and]
          intro _ other
          exact other m fits rfl
        · simp only [if_neg fits, true_iff]
          refine ⟨nofun, ?_⟩
          rintro k small ⟨⟩
          exact fits small
      | negSucc m => simp only [ne_eq, Except.ok.injEq, reduceCtorEq, not_false_eq_true,
          Value.integer.injEq, implies_true, and_self]
    | _ => simp only [ne_eq, Except.ok.injEq, reduceCtorEq, not_false_eq_true, implies_true,
        and_self]

/-- A value is refused as a text if it is read as anything else but nothing. -/
theorem textMember?_refused_iff {n : Node} (found : d.node? name = some (some n)) :
    d.textMember? name = none ↔ n.read ≠ .ok .null ∧ ∀ s, n.read ≠ .ok (.text s) := by
  simp only [textMember?, member?, found]
  cases n.read with
  | error stop => simp only [ne_eq, reduceCtorEq, not_false_eq_true, implies_true, and_self]
  | ok v =>
    cases v with
    | null => simp only [ne_eq, reduceCtorEq, not_true_eq_false, false_and]
    | text s =>
      simp only [reduceCtorEq, false_iff, not_and]
      intro _ other
      exact other s rfl
    | _ => simp only [ne_eq, Except.ok.injEq, reduceCtorEq, not_false_eq_true, implies_true,
        and_self]

/-- A member that is a whole number or absent is refused if it stands twice, or with a text that is
neither `null` nor that of a whole number of 64 bits. -/
theorem countMember?_eq_none_iff (written : List.Forall₂ IsWritten members d.members) :
    d.countMember? name = none ↔ 1 < (textsOf members name).length ∨
      ∃ text ∈ textsOf members name, text ≠ Bytes.ofText "null" ∧
        ∀ k < UInt64.size, text ≠ Bytes.ofText (toString k) := by
  rcases node?_cases written name with ⟨none, absent⟩ | ⟨text, n, one, own, found⟩ |
    ⟨several, refused⟩
  · simp [countMember?, member?, absent, none]
  · rw [countMember?_refused_iff found, one]
    simp +contextual [own.read_eq_null_iff, own.read_eq_natural_iff]
  · simp only [countMember?, member?, refused, several, true_or]

/-- A member that is a text or absent is refused if it stands twice, or with a text that is neither
`null` nor a literal that spells a text. -/
theorem textMember?_eq_none_iff (written : List.Forall₂ IsWritten members d.members) :
    d.textMember? name = none ↔ 1 < (textsOf members name).length ∨
      ∃ text ∈ textsOf members name, text ≠ Bytes.ofText "null" ∧ ∀ s, ¬Literal text (.ok s) := by
  rcases node?_cases written name with ⟨none, absent⟩ | ⟨text, n, one, own, found⟩ |
    ⟨several, refused⟩
  · simp [textMember?, member?, absent, none]
  · rw [textMember?_refused_iff found, one]
    simp [own.read_eq_null_iff, own.read_eq_text_iff]
  · simp only [textMember?, member?, refused, several, true_or]

end Document

end TokenBinding.Json
