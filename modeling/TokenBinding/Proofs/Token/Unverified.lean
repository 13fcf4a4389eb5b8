import TokenBinding.Bundle
import TokenBinding.Proofs.Json.Members
import TokenBinding.Proofs.Token.Parts

/-!
# What the unverified readers look at

A token whose claims can be read without verification has two points. In front of each of them
stands the base64 of a JSON text: that of a header which names an algorithm, and that of an object
(`Legible`). So there is no blank, no `?` and no `;` in front of its signature.

The signature is any text without a point. The readers do not look at it, so with another signature
they come to the same, be it claims or a refusal (`readUnverified_text_congr`).

A payload has to be an object, since the readers meant here, that of the claims for routing and that
of the nonce, take members by name. A header need not be one: it may also be an array of the values
of its members, and the claim that it is an object is false (`header_need_not_be_object`).

What it does not establish. Which members a header or a payload has beside those that are sought is
left open, and so is all that a reader could make of a payload that is no object.

Main statement: `unverified_readers`.
-/

namespace TokenBinding.Token

open Json (Document Node ObjectText Padded Written textsOf)

/-! ## The text of a header -/

/-- The value names the algorithm. There are two ways to name one of a list: a text that is the
name, and an object that has one member, of that name and with nothing (`null`) as its value. -/
def Algorithm.NamedBy (a : Algorithm) (n : Node) : Prop :=
  n.read = .ok (.text a.name) ∨ n.read = .ok (.object [(a.name, .null)])

/-- The text of a header that names the algorithm. -/
inductive HeaderText (a : Algorithm) (bs : Bytes) : Prop
  /-- An object with one member for the algorithm. -/
  | object {members : List (String × Bytes)} {text : Bytes} {n : Node}
      (whole : ObjectText bs members) (once : textsOf members "alg" = [text])
      (own : Written (.value n) text) (named : a.NamedBy n)
  /-- An array of the values of all members, the second of which is that of the algorithm. -/
  | array {items : List Node} {text : Bytes} {n : Node} (pad : Padded text bs)
      (whole : Written (.value (.array items)) text) (all : items.length = Header.layout.length)
      (second : items[1]? = some n) (named : a.NamedBy n)

theorem Algorithm.name_of_ofName? {s : String} {a : Algorithm} (h : ofName? s = some a) :
    s = a.name := by
  have same := List.find?_some h
  exact (beq_iff_eq.mp same).symm

/-- A member of a document has a value if it stands there once, with a value that is read. -/
theorem node?_of_member? {d : Document} {name : String} {v : Json.Value}
    (h : d.member? name = some (some v)) :
    ∃ n, d.node? name = some (some n) ∧ n.read = .ok v := by
  unfold Document.member? at h
  split at h
  · cases h
  · cases h
  · next n found =>
    refine ⟨n, found, ?_⟩
    split at h
    · cases h
    · next read =>
      cases h
      exact read
    · cases h

/-- The member of a header that names its algorithm. -/
theorem exists_namedBy_of_readAlgorithm? {d : Document} {a : Algorithm}
    (h : Header.readAlgorithm? d = some a) :
    ∃ n, d.node? "alg" = some (some n) ∧ a.NamedBy n := by
  obtain ⟨s, word, known⟩ := Option.bind_eq_some_iff.mp h
  obtain rfl := Algorithm.name_of_ofName? known
  have word := Option.join_eq_some_iff.mp word
  unfold Document.wordMember? at word
  split at word
  · cases word
  · next found =>
    cases word
    obtain ⟨n, here, read⟩ := node?_of_member? found
    exact ⟨n, here, .inl read⟩
  · next s v found =>
    split at word
    · next nothing =>
      cases word
      obtain ⟨n, here, read⟩ := node?_of_member? found
      cases v with
      | null => exact ⟨n, here, .inr read⟩
      | _ => cases nothing
    · cases word
  · cases word

/-- Of the values in an array, the second is that of the algorithm. -/
theorem node?_alg_zip {items : List Node} (all : items.length = Header.layout.length) :
    (⟨Header.layout.zip items⟩ : Document).node? "alg" = some items[1]? := by
  match items, all with
  | typ :: alg :: rest, _ =>
    have others : ∀ m ∈ (Header.layout.drop 2).zip rest, ¬m.1 = "alg" := by
      intro m mem
      have name : m.1 ∈ Header.layout.drop 2 := (List.of_mem_zip mem).1
      have apart : ∀ name ∈ Header.layout.drop 2, ¬name = "alg" := by decide
      exact apart m.1 name
    have gone : ((Header.layout.drop 2).zip rest).filter (fun m => m.1 = "alg") = [] := by
      apply List.filter_eq_nil_iff.mpr
      intro m mem
      simpa only [decide_eq_true_eq] using others m mem
    have one : (⟨Header.layout.zip (typ :: alg :: rest)⟩ : Document).occurrences "alg" = [alg] := by
      show (List.filter _ (("typ", typ) :: ("alg", alg) ::
        (Header.layout.drop 2).zip rest)).map Prod.snd = [alg]
      rw [List.filter_cons_of_neg (by simp), List.filter_cons_of_pos (by simp), gone]
      rfl
    rw [Document.node?, one]
    rfl

/-- A header is read from the text of one. The reader lays an array out as an object first, so the
two forms meet in the list of members, and part again when it is asked which text they came from. -/
theorem headerText_of_parse? {bs : Bytes} {header : Header} (h : Header.parse? bs = some header) :
    HeaderText header.algorithm bs := by
  obtain ⟨d, laid, read⟩ := Option.bind_eq_some_iff.mp h
  have alg : Header.readAlgorithm? d = some header.algorithm := by
    unfold Header.ofDocument? at read
    split at read
    · obtain ⟨a, alg, rest⟩ := Option.bind_eq_some_iff.mp read
      obtain ⟨id?, -, made⟩ := Option.bind_eq_some_iff.mp rest
      cases made
      exact alg
    · cases read
  obtain ⟨n, found, named⟩ := exists_namedBy_of_readAlgorithm? alg
  obtain ⟨tree, parsed, shaped⟩ := Option.bind_eq_some_iff.mp laid
  cases tree with
  | array items =>
    simp only [Document.ofLaid?] at shaped
    split at shaped
    · next all =>
      obtain rfl := Option.some.inj shaped
      obtain ⟨text, pad, whole⟩ := Json.Node.parse?_eq_some_iff.mp parsed
      rw [node?_alg_zip all] at found
      exact .array pad whole all (Option.some.inj found) named
    · cases shaped
  | object entries =>
    have document : Document.parse? bs = some d := Option.bind_eq_some_iff.mpr ⟨_, parsed, shaped⟩
    obtain ⟨members, whole⟩ := Document.exists_objectText_of_parse? document
    obtain ⟨d', document', written⟩ := Document.parse?_of_objectText whole
    obtain rfl : d = d' := Option.some.inj (document.symm.trans document')
    rcases Document.node?_cases written "alg" with ⟨-, absent⟩ | ⟨text, m, once, own, here⟩ |
      ⟨-, twice⟩
    · cases found.symm.trans absent
    · obtain rfl : n = m := Option.some.inj (Option.some.inj (found.symm.trans here))
      exact .object whole once own named
    · cases found.symm.trans twice
  | plain r => cases shaped

/-! ## Tokens that can be read -/

/-- A token of these parts, with two points, whose header and payload are canonical base64 of what
they have to be. -/
structure Legible (token : String) (parts : Compact) (a : Algorithm) : Prop where
  whole : token = parts.text
  points : token.toList.count Compact.separator = 2
  header : ∃ bytes, String.ofList parts.header = Text.Base64.encode .urlSafe bytes ∧
    HeaderText a bytes
  payload : ∃ bytes members, String.ofList parts.payload = Text.Base64.encode .urlSafe bytes ∧
    ObjectText bytes members
  plain : ∀ c ∈ parts.header ++ parts.payload,
    Text.isBlank c = false ∧ c ≠ Bundle.saltSeparator ∧ c ≠ Bundle.tokenSeparator

/-- A part that is read is the base64 of what is read from it. -/
theorem Compact.exists_encode_of_readPart {α : Type} {parse? : Bytes → Option α}
    {part : List Char} {a : α} (h : readPart parse? part = .ok a) :
    ∃ bytes, String.ofList part = Text.Base64.encode .urlSafe bytes ∧ parse? bytes = some a := by
  obtain ⟨bytes, decoded, parsed⟩ := readPart_eq_ok_iff.mp h
  exact ⟨bytes, Text.Base64.decode_eq_ok_iff.mp decoded, parsed⟩

variable {α : Type} {wanted : Document → Option α}

/-- A token whose claims can be read is legible, whichever of them are wanted. The two points are
counted from the parts: there is none in the base64 of the header, and cutting leaves none in the
last two. -/
theorem legible_of_readUnverified {token : String} {claims : α}
    (h : readUnverified wanted token = .ok claims) : ∃ parts a, Legible token parts a := by
  obtain ⟨parts, header, d, cut, head, body, -⟩ := readUnverified_eq_ok_iff.mp h
  obtain ⟨whole, payloadFree, signatureFree⟩ := Compact.split_eq_ok_iff.mp cut
  have inHeader := Compact.plain_of_readPart head
  have inPayload := Compact.plain_of_readPart body
  have headerFree : Compact.separator ∉ parts.header :=
    fun mem => (inHeader _ mem).2 (by decide)
  refine ⟨parts, header.algorithm, whole, ?_, ?_, ?_, ?_⟩
  · rw [whole, Compact.text, String.toList_ofList]
    simp only [List.count_append, List.count_cons_self, List.count_eq_zero.mpr headerFree,
      List.count_eq_zero.mpr payloadFree, List.count_eq_zero.mpr signatureFree]
  · obtain ⟨bytes, encoded, parsed⟩ := Compact.exists_encode_of_readPart head
    exact ⟨bytes, encoded, headerText_of_parse? parsed⟩
  · obtain ⟨bytes, encoded, parsed⟩ := Compact.exists_encode_of_readPart body
    obtain ⟨members, object⟩ := Document.exists_objectText_of_parse? parsed
    exact ⟨bytes, members, encoded, object⟩
  · intro c mem
    have plain : Text.isBlank c = false ∧ c ∉ Text.Base64.separators :=
      (List.mem_append.mp mem).elim (inHeader c) (inPayload c)
    refine ⟨plain.1, ?_, ?_⟩
    · rintro rfl
      exact plain.2 (by decide)
    · rintro rfl
      exact plain.2 (by decide)

/-- A header that is an array, `[null,"HS256",null,null,null,null,null,null,null,null]`. -/
def listedHeader : List Char :=
  "W251bGwsIkhTMjU2IixudWxsLG51bGwsbnVsbCxudWxsLG51bGwsbnVsbCxudWxsLG51bGxd".toList

/-- A payload with an issuer and an identity, `{"iss":"i","email":"e"}`. -/
def plainPayload : List Char := "eyJpc3MiOiJpIiwiZW1haWwiOiJlIn0".toList

theorem readUnverified_listed :
    readUnverified RoutingClaims.ofDocument? (Compact.text ⟨listedHeader, plainPayload, []⟩) =
      .ok ⟨some "i", some "e"⟩ := by decide +kernel

/-- The header of a token whose claims can be read need not be an object. This one is an array of
ten values, of which all but the second are null. -/
theorem header_need_not_be_object :
    ∃ claims bytes,
      readUnverified RoutingClaims.ofDocument? (Compact.text ⟨listedHeader, plainPayload, []⟩) =
        .ok claims ∧
      Text.Base64.decode .urlSafe (String.ofList listedHeader) = .ok bytes ∧
      ∀ members, ¬ObjectText bytes members := by
  refine ⟨_, Bytes.ofText "[null,\"HS256\",null,null,null,null,null,null,null,null]",
    readUnverified_listed, ?decoded, fun members object => ?noObject⟩
  case decoded => decide +kernel
  case noObject =>
    obtain ⟨d, document, -⟩ := Document.parse?_of_objectText object
    have refused : (Document.parse? (Bytes.ofText
        "[null,\"HS256\",null,null,null,null,null,null,null,null]")).isNone = true := by
      decide +kernel
    rw [document] at refused
    cases refused

/-! ## Signatures -/

/-- Whatever stands behind the last point, what is read in front of it is the same. That holds of
texts that are no tokens as well, where it is the refusal that is the same. -/
theorem readUnverified_text_congr (header payload : List Char) {signature signature' : List Char}
    (free : Compact.separator ∉ signature) (free' : Compact.separator ∉ signature') :
    readUnverified wanted (Compact.text ⟨header, payload, signature⟩) =
      readUnverified wanted (Compact.text ⟨header, payload, signature'⟩) := by
  have last : ∀ {s : List Char}, Compact.separator ∉ s →
      Text.cutLast? Compact.separator (Compact.text ⟨header, payload, s⟩).toList =
        some (header ++ Compact.separator :: payload, s) := by
    intro s free
    rw [Compact.text, String.toList_ofList]
    exact Text.cutLast?_append (header ++ Compact.separator :: payload) free
  simp only [readUnverified, Compact.split, last free, last free']
  -- What is cut off in front is read, and is the same for both.
  cases Text.cutLast? Compact.separator (header ++ Compact.separator :: payload) with
  | none => rfl
  | some front => rfl

/-! ## The readers -/

/-- A token whose claims are read without verification, whichever members of the payload are wanted,
has two points, and canonical base64 of the text of a header that names an algorithm and of the text
of an object in front of them. With any two signatures that have no point in them, a header and a
payload have the same preview and the same nonce, or are refused for the same reason.

A reader is given by what it takes from the members of an object. The program has two, that of the
preview and that of the nonce. -/
theorem unverified_readers :
    (∀ {α : Type} (wanted : Document → Option α) (token : String) (claims : α),
      readUnverified wanted token = .ok claims → ∃ parts a, Legible token parts a) ∧
    ∀ header payload signature signature' : List Char,
      Compact.separator ∉ signature → Compact.separator ∉ signature' →
        (∀ registry, Preview.ofToken registry (Compact.text ⟨header, payload, signature⟩) =
          Preview.ofToken registry (Compact.text ⟨header, payload, signature'⟩)) ∧
        unverifiedNonce (Compact.text ⟨header, payload, signature⟩) =
          unverifiedNonce (Compact.text ⟨header, payload, signature'⟩) := by
  refine ⟨fun wanted token claims h => legible_of_readUnverified h, ?_⟩
  intro header payload signature signature' free free'
  constructor
  · intro registry
    simp only [Preview.ofToken, readUnverified_text_congr header payload free free']
  · simp only [unverifiedNonce, readUnverified_text_congr header payload free free']

/-- A token with a listed header, and what is read of it with two signatures that are no base64. -/
theorem unverified_readers_listed :
    (∃ parts a, Legible (Compact.text ⟨listedHeader, plainPayload, []⟩) parts a) ∧
      unverifiedNonce (Compact.text ⟨listedHeader, plainPayload, "?;".toList⟩) =
        unverifiedNonce (Compact.text ⟨listedHeader, plainPayload, " ".toList⟩) := by
  obtain ⟨legible, same⟩ := unverified_readers
  constructor
  · exact legible _ _ _ readUnverified_listed
  · exact (same listedHeader plainPayload _ _ (by decide) (by decide)).2

end TokenBinding.Token
