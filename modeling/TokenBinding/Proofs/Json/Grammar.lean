import TokenBinding.Json.Node
import TokenBinding.Proofs.Json.Lexemes

/-!
# The grammar of a document

`Written` says of bytes that they are the text of a value: a literal, a word, or brackets around
items or entries with commas between them, and blanks wherever there is no literal and no word. The
reader accepts these texts and no others, and gives the tree that they are written from
(`parse?_eq_some_iff`). So no text is written from two trees (`Written.unique`).

The reader counts its steps. Each of them takes a token or ends at one, and that is the bound on the
fuel in the second half of the proof.
-/

namespace TokenBinding.Json

open Token (isSpace scan)

/-! ## The grammar -/

/-- The text of something with blanks around it. -/
def Padded (text bs : Bytes) : Prop :=
  ∃ before after, Blank before ∧ Blank after ∧ bs = before ++ (text ++ after)

/-- A name with the colon behind it. -/
def Label (name : Reading String) (bs : Bytes) : Prop :=
  ∃ text padded, Literal text name ∧ Padded text padded ∧ bs = padded ++ [58]

/-- An entry of an object, with the text of its value. -/
structure WrittenEntry where
  name : Reading String
  text : Bytes
  node : Node

/-- The entry in the tree. -/
def WrittenEntry.entry (e : WrittenEntry) : Reading String × Node := (e.name, e.node)

/-- A part of a document: a value, or what stands between the brackets of an array or object that is
not empty. -/
inductive Part where
  | value (n : Node)
  | items (ns : List Node)
  | entries (es : List WrittenEntry)

/-- These bytes are the text of the part. -/
inductive Written : Part → Bytes → Prop
  | literal {s : Reading String} {bs : Bytes} (h : Literal bs s) :
      Written (.value (.plain (s.map .text))) bs
  | word {r : Reading Value} {bs : Bytes} (h : Word bs r) : Written (.value (.plain r)) bs
  | emptyArray {gap : Bytes} (h : Blank gap) : Written (.value (.array [])) (91 :: (gap ++ [93]))
  | array {ns : List Node} {bs : Bytes} (h : Written (.items ns) bs) :
      Written (.value (.array ns)) (91 :: (bs ++ [93]))
  | emptyObject {gap : Bytes} (h : Blank gap) :
      Written (.value (.object [])) (123 :: (gap ++ [125]))
  | object {es : List WrittenEntry} {bs : Bytes} (h : Written (.entries es) bs) :
      Written (.value (.object (es.map WrittenEntry.entry))) (123 :: (bs ++ [125]))
  | lastItem {n : Node} {text bs : Bytes} (h : Written (.value n) text) (pad : Padded text bs) :
      Written (.items [n]) bs
  | item {n : Node} {ns : List Node} {text bs rest : Bytes} (h : Written (.value n) text)
      (pad : Padded text bs) (later : Written (.items ns) rest) :
      Written (.items (n :: ns)) (bs ++ 44 :: rest)
  | lastEntry {e : WrittenEntry} {label bs : Bytes} (named : Label e.name label)
      (h : Written (.value e.node) e.text) (pad : Padded e.text bs) :
      Written (.entries [e]) (label ++ bs)
  | entry {e : WrittenEntry} {es : List WrittenEntry} {label bs rest : Bytes}
      (named : Label e.name label) (h : Written (.value e.node) e.text) (pad : Padded e.text bs)
      (later : Written (.entries es) rest) :
      Written (.entries (e :: es)) (label ++ (bs ++ 44 :: rest))

/-! ## What the reader accepts -/

/-- A text token was scanned from a literal, with blanks in front of it, and the scan went on behind
the literal. -/
theorem exists_literal_of_scan {bs : Bytes} {s : Reading String} {ts : List Token}
    (h : scan bs = some (.text s :: ts)) :
    ∃ before text behind, bs = before ++ (text ++ behind) ∧ Blank before ∧ Literal text s ∧
      scan behind = some ts := by
  obtain ⟨before, text, behind, rfl, blank, here, scanned⟩ := exists_lexeme_of_scan h
  cases here with
  | mark own => cases own
  | literal own => exact ⟨before, text, behind, rfl, blank, own, scanned⟩

/-- A scalar token was scanned from a word in the same way. -/
theorem exists_word_of_scan {bs : Bytes} {r : Reading Value} {ts : List Token}
    (h : scan bs = some (.scalar r :: ts)) :
    ∃ before text behind, bs = before ++ (text ++ behind) ∧ Blank before ∧ Word text r ∧
      scan behind = some ts := by
  obtain ⟨before, text, behind, rfl, blank, here, scanned⟩ := exists_lexeme_of_scan h
  cases here with
  | mark own => cases own
  | word own => exact ⟨before, text, behind, rfl, blank, own, scanned⟩

mutual
/-- What is taken as a value is the text of it, behind blanks. -/
theorem written_of_take {fuel : Nat} {bs : Bytes} {ts rest : List Token} {n : Node}
    (scanned : scan bs = some ts) (h : Node.take fuel ts = some (n, rest)) :
    ∃ before text behind, bs = before ++ (text ++ behind) ∧ Blank before ∧
      Written (.value n) text ∧ scan behind = some rest := by
  rw [Node.take.eq_def] at h
  split at h
  · cases h
  · cases h
    obtain ⟨before, text, behind, rfl, blank, own, later⟩ := exists_literal_of_scan scanned
    exact ⟨before, text, behind, rfl, blank, .literal own, later⟩
  · cases h
    obtain ⟨before, text, behind, rfl, blank, own, later⟩ := exists_word_of_scan scanned
    exact ⟨before, text, behind, rfl, blank, .word own, later⟩
  · cases h
    obtain ⟨before, inner, rfl, blank, closing⟩ := exists_mark_of_scan rfl scanned
    obtain ⟨gap, behind, rfl, empty, later⟩ := exists_mark_of_scan rfl closing
    refine ⟨before, 91 :: (gap ++ [93]), behind, ?_, blank, .emptyArray empty, later⟩
    simp only [List.cons_append, List.append_assoc, List.nil_append]
  -- Only an array and an object that are not empty use fuel: their contents are taken with less.
  · next fuel ts _ =>
    obtain ⟨⟨ns, rest⟩, taken, made⟩ := Option.map_eq_some_iff.mp h
    cases made
    obtain ⟨before, inner, rfl, blank, opened⟩ := exists_mark_of_scan rfl scanned
    obtain ⟨text, behind, rfl, items, later⟩ := written_of_takeItems opened taken
    refine ⟨before, 91 :: (text ++ [93]), behind, ?_, blank, .array items, later⟩
    simp only [List.cons_append, List.append_assoc, List.nil_append]
  · cases h
    obtain ⟨before, inner, rfl, blank, closing⟩ := exists_mark_of_scan rfl scanned
    obtain ⟨gap, behind, rfl, empty, later⟩ := exists_mark_of_scan rfl closing
    refine ⟨before, 123 :: (gap ++ [125]), behind, ?_, blank, .emptyObject empty, later⟩
    simp only [List.cons_append, List.append_assoc, List.nil_append]
  · next fuel ts _ =>
    obtain ⟨⟨entries, rest⟩, taken, made⟩ := Option.map_eq_some_iff.mp h
    cases made
    obtain ⟨before, inner, rfl, blank, opened⟩ := exists_mark_of_scan rfl scanned
    obtain ⟨es, text, behind, rfl, rfl, entries, later⟩ := written_of_takeEntries opened taken
    refine ⟨before, 123 :: (text ++ [125]), behind, ?_, blank, .object entries, later⟩
    simp only [List.cons_append, List.append_assoc, List.nil_append]
  · cases h
/-- What is taken as items is the text of them, and the closing bracket stands behind it. -/
theorem written_of_takeItems {fuel : Nat} {bs : Bytes} {ts rest : List Token} {ns : List Node}
    (scanned : scan bs = some ts) (h : Node.takeItems fuel ts = some (ns, rest)) :
    ∃ text behind, bs = text ++ 93 :: behind ∧ Written (.items ns) text ∧
      scan behind = some rest := by
  rw [Node.takeItems.eq_def] at h
  split at h
  · cases h
  · next fuel ts =>
    split at h
    · next n more taken =>
      obtain ⟨⟨ns, rest⟩, others, made⟩ := Option.map_eq_some_iff.mp h
      cases made
      obtain ⟨before, text, behind, rfl, blank, own, after⟩ := written_of_take scanned taken
      obtain ⟨gap, behind, rfl, blank', later⟩ := exists_mark_of_scan rfl after
      obtain ⟨text', behind, rfl, items, final⟩ := written_of_takeItems later others
      have pad : Padded text (before ++ (text ++ gap)) := ⟨before, gap, blank, blank', rfl⟩
      refine ⟨_, behind, ?_, .item own pad items, final⟩
      simp only [List.cons_append, List.append_assoc]
    · next n more taken =>
      cases h
      obtain ⟨before, text, behind, rfl, blank, own, after⟩ := written_of_take scanned taken
      obtain ⟨gap, behind, rfl, blank', later⟩ := exists_mark_of_scan rfl after
      have pad : Padded text (before ++ (text ++ gap)) := ⟨before, gap, blank, blank', rfl⟩
      refine ⟨_, behind, ?_, .lastItem own pad, later⟩
      simp only [List.append_assoc]
    · cases h
/-- What is taken as entries is the text of them, and the closing bracket stands behind it. -/
theorem written_of_takeEntries {fuel : Nat} {bs : Bytes} {ts rest : List Token}
    {entries : List (Reading String × Node)} (scanned : scan bs = some ts)
    (h : Node.takeEntries fuel ts = some (entries, rest)) :
    ∃ es text behind, entries = es.map WrittenEntry.entry ∧ bs = text ++ 125 :: behind ∧
      Written (.entries es) text ∧ scan behind = some rest := by
  rw [Node.takeEntries.eq_def] at h
  split at h
  · next fuel name ts =>
    obtain ⟨before, literal, named, rfl, blank, own, colon⟩ := exists_literal_of_scan scanned
    obtain ⟨gap, value, rfl, blank', behindColon⟩ := exists_mark_of_scan rfl colon
    have label : Label name (before ++ (literal ++ gap) ++ [58]) :=
      ⟨literal, _, own, ⟨before, gap, blank, blank', rfl⟩, rfl⟩
    split at h
    · next n more taken =>
      obtain ⟨⟨entries, rest⟩, others, made⟩ := Option.map_eq_some_iff.mp h
      cases made
      obtain ⟨before, text, behind, rfl, blank, written, after⟩ :=
        written_of_take behindColon taken
      obtain ⟨gap, behind, rfl, blank', later⟩ := exists_mark_of_scan rfl after
      obtain ⟨es, text', behind, rfl, rfl, entries, final⟩ := written_of_takeEntries later others
      have pad : Padded text (before ++ (text ++ gap)) := ⟨before, gap, blank, blank', rfl⟩
      refine ⟨⟨name, text, n⟩ :: es, _, behind, rfl, ?_, .entry label written pad entries, final⟩
      simp only [List.cons_append, List.append_assoc, List.nil_append]
    · next n more taken =>
      cases h
      obtain ⟨before, text, behind, rfl, blank, written, after⟩ :=
        written_of_take behindColon taken
      obtain ⟨gap, behind, rfl, blank', later⟩ := exists_mark_of_scan rfl after
      have pad : Padded text (before ++ (text ++ gap)) := ⟨before, gap, blank, blank', rfl⟩
      refine ⟨[⟨name, text, n⟩], _, behind, rfl, ?_, .lastEntry label written pad, later⟩
      simp only [List.cons_append, List.append_assoc, List.nil_append]
    · cases h
  · cases h
end

/-! ## What the reader has to accept -/

/-- The part is read back from its text, and what stands behind it is left. A list of items or of
entries is read up to the closing bracket. -/
def Part.ReadBack : Part → Bytes → Prop
  | value n, bs => ∃ ts : List Token,
    (∀ rest tr, WordEnds rest → scan rest = some tr → scan (bs ++ rest) = some (ts ++ tr)) ∧
      ∀ fuel tr, 2 * ts.length ≤ fuel → Node.take fuel (ts ++ tr) = some (n, tr)
  | items ns, bs => ∃ ts : List Token,
    (∀ rest tr, scan rest = some tr → scan (bs ++ 93 :: rest) = some (ts ++ tr)) ∧
      ∀ fuel tr, 2 * ts.length ≤ fuel → Node.takeItems fuel (ts ++ tr) = some (ns, tr)
  | entries es, bs => ∃ ts : List Token,
    (∀ rest tr, scan rest = some tr → scan (bs ++ 125 :: rest) = some (ts ++ tr)) ∧
      ∀ fuel tr, 2 * ts.length ≤ fuel →
        Node.takeEntries fuel (ts ++ tr) = some (es.map WrittenEntry.entry, tr)

/-- Behind an opening bracket items are taken, if there are any. -/
theorem take_of_takeItems {fuel : Nat} {ts rest : List Token} {ns : List Node}
    (h : Node.takeItems fuel ts = some (ns, rest)) :
    Node.take (fuel + 1) (.beginArray :: ts) = some (.array ns, rest) := by
  have begun : Node.take (fuel + 1) (.beginArray :: ts) =
      (Node.takeItems fuel ts).map fun p => (.array p.1, p.2) := by
    cases ts with
    | nil => rfl
    | cons t ts =>
      cases t with
      | endArray =>
        -- No item begins with a closing bracket.
        cases fuel with
        | zero => cases h
        | succ fuel => cases fuel <;> cases h
      | _ => rfl
  rw [begun, h, Option.map_some]

/-- And so are entries. -/
theorem take_of_takeEntries {fuel : Nat} {ts rest : List Token}
    {entries : List (Reading String × Node)}
    (h : Node.takeEntries fuel ts = some (entries, rest)) :
    Node.take (fuel + 1) (.beginObject :: ts) = some (.object entries, rest) := by
  have begun : Node.take (fuel + 1) (.beginObject :: ts) =
      (Node.takeEntries fuel ts).map fun p => (.object p.1, p.2) := by
    cases ts with
    | nil => rfl
    | cons t ts =>
      cases t with
      | endObject => cases fuel <;> cases h
      | _ => rfl
  rw [begun, h, Option.map_some]

/-- What is scanned as these tokens is scanned as them with blanks around it. -/
theorem Padded.scan_append {text bs rest : Bytes} {ts tr : List Token} (pad : Padded text bs)
    (own : ∀ rest tr, WordEnds rest → scan rest = some tr → scan (text ++ rest) = some (ts ++ tr))
    (ends : WordEnds rest) (behind : scan rest = some tr) :
    scan (bs ++ rest) = some (ts ++ tr) := by
  obtain ⟨before, after, blank, blank', rfl⟩ := pad
  rw [List.append_assoc, blank.scan_append, List.append_assoc]
  refine own _ _ (blank'.wordEnds ends) ?_
  rw [blank'.scan_append, behind]

/-- A label is scanned as a name and a colon, in front of whatever follows. -/
theorem Label.scan_append {name : Reading String} {label rest : Bytes} {tr : List Token}
    (h : Label name label) (behind : scan rest = some tr) :
    scan (label ++ rest) = some (.text name :: .colon :: tr) := by
  obtain ⟨text, padded, literal, pad, rfl⟩ := h
  have colon : scan (58 :: rest) = some (.colon :: tr) := scan_punctuation (by decide) rfl behind
  have own : ∀ rest tr, WordEnds rest → scan rest = some tr →
      scan (text ++ rest) = some ([.text name] ++ tr) :=
    fun _ _ _ later => literal.scan_append later
  rw [List.append_assoc]
  exact pad.scan_append own (wordEnds_cons (by decide)) colon

/-- Fuel for tokens is fuel for a step and for the tokens on both sides of one of them. -/
theorem exists_step_of_enough {fuel : Nat} {ts ts' : List Token} {t : Token}
    (enough : 2 * (ts ++ t :: ts').length ≤ fuel) :
    ∃ left, fuel = left + 1 ∧ 2 * ts.length ≤ left ∧ 2 * ts'.length ≤ left := by
  rw [List.length_append, List.length_cons] at enough
  exact ⟨fuel - 1, by omega, by omega, by omega⟩

/-- A mark behind blanks is a token more. -/
theorem Blank.scan_mark {gap rest : Bytes} {b : UInt8} {t : Token} {tr : List Token}
    (h : Blank gap) (solid : isSpace b = false) (found : Token.punctuation? b = some t)
    (behind : scan rest = some tr) : scan (gap ++ b :: rest) = some (t :: tr) := by
  rw [h.scan_append]
  exact scan_punctuation solid found behind

namespace Part.ReadBack

variable {text bs label rest gap : Bytes} {n : Node} {ns : List Node} {e : WrittenEntry}
  {es : List WrittenEntry}

/-- A literal is read back as the text that it spells. -/
theorem literal {s : Reading String} (own : Literal bs s) :
    ReadBack (.value (.plain (s.map .text))) bs := by
  refine ⟨[] ++ [.text s], fun _ _ _ later => own.scan_append later, ?_⟩
  intro fuel tr enough
  obtain ⟨left, rfl, -⟩ := exists_step_of_enough enough
  rfl

/-- A word is read back as its scalar. -/
theorem word {r : Reading Value} (own : Word bs r) : ReadBack (.value (.plain r)) bs := by
  refine ⟨[] ++ [.scalar r], fun _ _ ends later => own.scan_append ends later, ?_⟩
  intro fuel tr enough
  obtain ⟨left, rfl, -⟩ := exists_step_of_enough enough
  rfl

theorem emptyArray (empty : Blank gap) :
    ReadBack (.value (.array [])) (91 :: (gap ++ [93])) := by
  refine ⟨[] ++ [.beginArray, .endArray], ?_, ?_⟩
  · intro rest tr _ behind
    have closing : scan (gap ++ 93 :: rest) = some (.endArray :: tr) :=
      empty.scan_mark (by decide) rfl behind
    rw [List.cons_append, List.append_assoc]
    exact scan_punctuation (by decide) rfl closing
  · intro fuel tr enough
    obtain ⟨left, rfl, -⟩ := exists_step_of_enough enough
    rfl

/-- Brackets around items make the array of them. -/
theorem array (own : ReadBack (.items ns) bs) :
    ReadBack (.value (.array ns)) (91 :: (bs ++ [93])) := by
  obtain ⟨ts, scanned, taken⟩ := own
  refine ⟨[] ++ .beginArray :: ts, ?_, ?_⟩
  · intro rest tr _ behind
    rw [List.cons_append, List.append_assoc]
    exact scan_punctuation (by decide) rfl (scanned rest tr behind)
  · intro fuel tr enough
    obtain ⟨left, rfl, -, room⟩ := exists_step_of_enough enough
    exact take_of_takeItems (taken left tr room)

theorem emptyObject (empty : Blank gap) :
    ReadBack (.value (.object [])) (123 :: (gap ++ [125])) := by
  refine ⟨[] ++ [.beginObject, .endObject], ?_, ?_⟩
  · intro rest tr _ behind
    have closing : scan (gap ++ 125 :: rest) = some (.endObject :: tr) :=
      empty.scan_mark (by decide) rfl behind
    rw [List.cons_append, List.append_assoc]
    exact scan_punctuation (by decide) rfl closing
  · intro fuel tr enough
    obtain ⟨left, rfl, -⟩ := exists_step_of_enough enough
    rfl

/-- Braces around entries make the object of them. -/
theorem object (own : ReadBack (.entries es) bs) :
    ReadBack (.value (.object (es.map WrittenEntry.entry))) (123 :: (bs ++ [125])) := by
  obtain ⟨ts, scanned, taken⟩ := own
  refine ⟨[] ++ .beginObject :: ts, ?_, ?_⟩
  · intro rest tr _ behind
    rw [List.cons_append, List.append_assoc]
    exact scan_punctuation (by decide) rfl (scanned rest tr behind)
  · intro fuel tr enough
    obtain ⟨left, rfl, -, room⟩ := exists_step_of_enough enough
    exact take_of_takeEntries (taken left tr room)

theorem lastItem (own : ReadBack (.value n) text) (pad : Padded text bs) :
    ReadBack (.items [n]) bs := by
  obtain ⟨ts, scanned, taken⟩ := own
  refine ⟨ts ++ [.endArray], ?_, ?_⟩
  · intro rest tr behind
    have closing : scan (93 :: rest) = some (.endArray :: tr) :=
      scan_punctuation (by decide) rfl behind
    rw [List.append_assoc]
    exact pad.scan_append scanned (wordEnds_cons (by decide)) closing
  · intro fuel tr enough
    obtain ⟨left, rfl, room, -⟩ := exists_step_of_enough enough
    rw [List.append_assoc]
    simp only [Node.takeItems, taken left _ room, List.singleton_append]

/-- An item in front of others is read back with them. -/
theorem item (own : ReadBack (.value n) text) (pad : Padded text bs)
    (later : ReadBack (.items ns) rest) : ReadBack (.items (n :: ns)) (bs ++ 44 :: rest) := by
  obtain ⟨ts, scanned, taken⟩ := own
  obtain ⟨ts', scanned', taken'⟩ := later
  refine ⟨ts ++ .comma :: ts', ?_, ?_⟩
  · intro behind tr final
    have comma : scan (44 :: (rest ++ 93 :: behind)) = some (.comma :: (ts' ++ tr)) :=
      scan_punctuation (by decide) rfl (scanned' behind tr final)
    rw [List.append_assoc, List.append_assoc]
    exact pad.scan_append scanned (wordEnds_cons (by decide)) comma
  · intro fuel tr enough
    obtain ⟨left, rfl, room, room'⟩ := exists_step_of_enough enough
    rw [List.append_assoc]
    simp only [Node.takeItems, taken left _ room, List.cons_append, taken' left tr room',
      Option.map_some]

/-- The tokens of a name and its colon make room for two steps more. -/
theorem room_of_label {ts : List Token} {name : Reading String} {left : Nat}
    (enough : 2 * (.text name :: .colon :: ts).length ≤ left) : 2 * ts.length ≤ left := by
  simp only [List.length_cons] at enough
  omega

theorem lastEntry (named : Label e.name label) (own : ReadBack (.value e.node) e.text)
    (pad : Padded e.text bs) : ReadBack (.entries [e]) (label ++ bs) := by
  obtain ⟨ts, scanned, taken⟩ := own
  refine ⟨(.text e.name :: .colon :: ts) ++ [.endObject], ?_, ?_⟩
  · intro rest tr behind
    have closing : scan (125 :: rest) = some (.endObject :: tr) :=
      scan_punctuation (by decide) rfl behind
    have value := pad.scan_append scanned (wordEnds_cons (by decide)) closing
    have entry := named.scan_append value
    simp only [List.cons_append, List.append_assoc, List.nil_append] at entry ⊢
    exact entry
  · intro fuel tr enough
    obtain ⟨left, rfl, room, -⟩ := exists_step_of_enough enough
    simp only [List.cons_append, List.append_assoc, List.nil_append, Node.takeEntries,
      taken left _ (room_of_label room)]
    rfl

/-- An entry in front of others is read back with them. -/
theorem entry (named : Label e.name label) (own : ReadBack (.value e.node) e.text)
    (pad : Padded e.text bs) (later : ReadBack (.entries es) rest) :
    ReadBack (.entries (e :: es)) (label ++ (bs ++ 44 :: rest)) := by
  obtain ⟨ts, scanned, taken⟩ := own
  obtain ⟨ts', scanned', taken'⟩ := later
  refine ⟨(.text e.name :: .colon :: ts) ++ .comma :: ts', ?_, ?_⟩
  · intro behind tr final
    have comma : scan (44 :: (rest ++ 125 :: behind)) = some (.comma :: (ts' ++ tr)) :=
      scan_punctuation (by decide) rfl (scanned' behind tr final)
    have value := pad.scan_append scanned (wordEnds_cons (by decide)) comma
    have entry := named.scan_append value
    simp only [List.cons_append, List.append_assoc] at entry ⊢
    exact entry
  · intro fuel tr enough
    obtain ⟨left, rfl, room, room'⟩ := exists_step_of_enough enough
    simp only [List.cons_append, List.append_assoc, Node.takeEntries,
      taken left _ (room_of_label room), taken' left tr room', Option.map_some]
    rfl

end Part.ReadBack

/-- The text of a part is read back. -/
theorem readBack_of_written {part : Part} {bs : Bytes} (h : Written part bs) :
    part.ReadBack bs := by
  -- The induction is on the text, with one lemma for each way to write a part.
  induction h with
  | literal own => exact .literal own
  | word own => exact .word own
  | emptyArray empty => exact .emptyArray empty
  | array _ own => exact .array own
  | emptyObject empty => exact .emptyObject empty
  | object _ own => exact .object own
  | lastItem _ pad own => exact .lastItem own pad
  | item _ pad _ own later => exact .item own pad later
  | lastEntry named _ pad own => exact .lastEntry named own pad
  | entry named _ pad _ own later => exact .entry named own pad later

/-! ## The reader -/

variable {bs text : Bytes} {n n' : Node}

/-- The texts of a value, with blanks around them, are what is read as the value. -/
theorem Node.parse?_eq_some_iff :
    Node.parse? bs = some n ↔ ∃ text, Padded text bs ∧ Written (.value n) text := by
  constructor
  · intro h
    obtain ⟨ts, scanned, tree⟩ := Option.bind_eq_some_iff.mp h
    unfold Node.ofTokens? at tree
    split at tree
    · next n taken =>
      cases tree
      obtain ⟨before, text, behind, rfl, blank, own, later⟩ := written_of_take scanned taken
      exact ⟨text, ⟨before, behind, blank, blank_of_scan later, rfl⟩, own⟩
    · cases tree
  · rintro ⟨text, pad, own⟩
    obtain ⟨ts, scanned, taken⟩ := readBack_of_written own
    have whole : scan bs = some ts := by
      have alone := pad.scan_append scanned wordEnds_nil rfl
      rwa [List.append_nil, List.append_nil] at alone
    have tree := taken (2 * ts.length + 1) [] (Nat.le_succ _)
    rw [List.append_nil] at tree
    simp only [Node.parse?, whole, Option.bind_some, Node.ofTokens?, tree]

/-- A text stands in itself, between no blanks. -/
theorem padded_self (text : Bytes) : Padded text text :=
  ⟨[], [], nofun, nofun, by rw [List.append_nil, List.nil_append]⟩

/-- A text is written from one value only. -/
theorem Written.unique (h : Written (.value n) text) (h' : Written (.value n') text) : n = n' := by
  have read : Node.parse? text = some n :=
    Node.parse?_eq_some_iff.mpr ⟨text, padded_self text, h⟩
  have read' : Node.parse? text = some n' :=
    Node.parse?_eq_some_iff.mpr ⟨text, padded_self text, h'⟩
  exact Option.some.inj (read.symm.trans read')

end TokenBinding.Json
