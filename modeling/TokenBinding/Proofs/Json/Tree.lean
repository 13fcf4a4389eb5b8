import TokenBinding.Proofs.Json.Grammar
import TokenBinding.Proofs.Json.Integer
import TokenBinding.Proofs.Json.Literal

/-!
# The tree of a printed value

A value that is printed without blanks is the text of one tree (`written_compact`), so it is read as
that tree (`parse?_compact`), and the tree is read as the value that was printed (`value_node`). The
values are those that the printer and the reader agree on exactly (`Exact`): numbers are whole and
have 64 bits.
-/

namespace TokenBinding.Json

/-- The literal of a text is one that spells it. -/
theorem literal_literalChars (s : String) : Literal (Bytes.ofChars (literalChars s)) (.ok s) := by
  have mark : String.utf8EncodeChar '"' = [34] := by decide
  refine ⟨Bytes.ofChars (s.toList.flatMap escapeChar ++ ['"']), Token.pieces s, ?_, ?_, ?_⟩
  · rw [literalChars, List.cons_append, Bytes.ofChars_cons, mark]
    rfl
  · have taken := Token.takeLiteral_literal s []
    rwa [List.append_nil] at taken
  · exact (Token.literal_pieces s).symm

namespace Value

mutual
/-- Every number in the value is whole and has 64 bits, with a sign or without one. -/
def Exact : Value → Prop
  | real _ => False
  | integer n => Token.IsWide n
  | array items => ExactItems items
  | object members => ExactMembers members
  | _ => True
/-- `Exact` for each item. -/
def ExactItems : List Value → Prop
  | [] => True
  | v :: rest => Exact v ∧ ExactItems rest
/-- `Exact` for each member's value. -/
def ExactMembers : List (String × Value) → Prop
  | [] => True
  | (_, v) :: rest => Exact v ∧ ExactMembers rest
end

mutual
/-- The tree of a value. -/
def node : Value → Node
  | array items => .array (itemNodes items)
  | object members => .object (memberNodes members)
  | v => .plain (.ok v)
/-- The trees of the items of an array. -/
def itemNodes : List Value → List Node
  | [] => []
  | v :: rest => node v :: itemNodes rest
/-- The trees of the members of an object, with their names. -/
def memberNodes : List (String × Value) → List (Reading String × Node)
  | [] => []
  | (name, v) :: rest => (.ok name, node v) :: memberNodes rest
end

/-! ## The text -/

/-- An integer of 64 bits, signed or not, is one word, and read as itself. -/
theorem word_integerBytes {n : Int} (wide : Token.IsWide n) :
    Word (Token.integerBytes n) (.ok (.integer n)) :=
  ⟨fun _ mem => Token.isWordByte_of_mem_integerBytes mem, Token.scalar?_integer wide⟩

/-- A printed name with its colon is the label of the name. -/
theorem label_literalChars (name : String) :
    Label (.ok name) (Bytes.ofChars (literalChars name) ++ [58]) :=
  ⟨_, _, literal_literalChars name, padded_self _, rfl⟩

mutual
/-- A value is printed as the text of its tree. -/
theorem written_compact {v : Value} (exact : v.Exact) :
    Written (.value v.node) (Bytes.ofChars v.compactChars) := by
  cases v with
  | null => exact .word ⟨List.all_eq_true.mp rfl, rfl⟩
  | bool b =>
    cases b with
    | true => exact .word ⟨List.all_eq_true.mp rfl, rfl⟩
    | false => exact .word ⟨List.all_eq_true.mp rfl, rfl⟩
  | integer n =>
    have whole : Bytes.ofChars (integer n).compactChars = Token.integerBytes n := by
      rw [compactChars, Token.integerBytes]
    rw [whole]
    exact .word (word_integerBytes exact)
  | real x => exact absurd exact (by simp [Exact])
  | text s => exact .literal (literal_literalChars s)
  | array items =>
    cases items with
    | nil =>
      have none : Blank [] := nofun
      exact .emptyArray none
    | cons v more =>
      obtain ⟨bs, shape, own⟩ := written_compactItems (List.cons_ne_nil v more) exact
      rw [compactChars, Bytes.ofChars_cons, shape]
      exact .array own
  | object members =>
    cases members with
    | nil =>
      have none : Blank [] := nofun
      exact .emptyObject none
    | cons m more =>
      obtain ⟨bs, es, shape, same, own⟩ := written_compactMembers (List.cons_ne_nil m more) exact
      rw [compactChars, Bytes.ofChars_cons, shape, node, ← same]
      exact .object own
/-- Items are printed as the text of an array from its first item on, the bracket that ends it
included. -/
theorem written_compactItems {items : List Value} (some_item : items ≠ [])
    (exact : ExactItems items) :
    ∃ bs, Bytes.ofChars (compactItems items) = bs ++ [93] ∧
      Written (.items (itemNodes items)) bs := by
  match items, some_item, exact with
  | [v], _, exact =>
    have own := written_compact exact.1
    refine ⟨Bytes.ofChars v.compactChars, ?_, .lastItem own (padded_self _)⟩
    rw [compactItems, Bytes.ofChars_append]
    rfl
  | v :: w :: more, _, exact =>
    have own := written_compact exact.1
    obtain ⟨bs, shape, later⟩ := written_compactItems (List.cons_ne_nil w more) exact.2
    refine ⟨Bytes.ofChars v.compactChars ++ 44 :: bs, ?_, .item own (padded_self _) later⟩
    rw [compactItems, Bytes.ofChars_append, Bytes.ofChars_cons, shape, List.append_assoc]
    rfl
/-- Members are printed as the text of an object from its first entry on, the brace that ends it
included. -/
theorem written_compactMembers {members : List (String × Value)} (some_member : members ≠ [])
    (exact : ExactMembers members) :
    ∃ bs es, Bytes.ofChars (compactMembers members) = bs ++ [125] ∧
      es.map WrittenEntry.entry = memberNodes members ∧ Written (.entries es) bs := by
  match members, some_member, exact with
  | [(name, v)], _, exact =>
    have own := written_compact exact.1
    let e : WrittenEntry := ⟨.ok name, Bytes.ofChars v.compactChars, v.node⟩
    refine ⟨_, [e], ?_, rfl, .lastEntry (label_literalChars name) own (padded_self _)⟩
    simp only [compactMembers, Bytes.ofChars_append, Bytes.ofChars_cons, List.append_assoc]
    rfl
  | (name, v) :: m :: more, _, exact =>
    have own := written_compact exact.1
    obtain ⟨bs, es, shape, same, later⟩ := written_compactMembers (List.cons_ne_nil m more) exact.2
    let e : WrittenEntry := ⟨.ok name, Bytes.ofChars v.compactChars, v.node⟩
    refine ⟨_, e :: es, ?_, congrArg (e.entry :: ·) same,
      .entry (label_literalChars name) own (padded_self _) later⟩
    simp only [compactMembers, Bytes.ofChars_append, Bytes.ofChars_cons, shape, List.append_assoc,
      List.cons_append]
    rfl
end

/-- What is printed from a value is read as its tree. -/
theorem parse?_compact {v : Value} (exact : v.Exact) :
    Node.parse? (Bytes.ofText v.compact) = some v.node := by
  rw [compact, Bytes.ofText_ofList]
  exact Node.parse?_eq_some_iff.mpr ⟨_, padded_self _, written_compact exact⟩

/-! ## Reading -/

mutual
/-- The tree of a value is read as that value. -/
theorem value_node (v : Value) : v.node.value = .ok v := by
  cases v with
  | array items => rw [node, Node.value, itemValues_nodes items]; rfl
  | object members => rw [node, Node.value, entryValues_nodes members]; rfl
  | _ => rfl
theorem itemValues_nodes (items : List Value) : Node.itemValues (itemNodes items) = .ok items := by
  cases items with
  | nil => rfl
  | cons v more =>
    simp only [itemNodes, Node.itemValues, value_node v, itemValues_nodes more]
    rfl
theorem entryValues_nodes (members : List (String × Value)) :
    Node.entryValues (memberNodes members) = .ok members := by
  cases members with
  | nil => rfl
  | cons m more =>
    simp only [memberNodes, Node.entryValues, value_node m.2, entryValues_nodes more]
    rfl
end

end Value

end TokenBinding.Json
