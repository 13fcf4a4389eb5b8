import TokenBinding.Proofs.Text.Base64.Canonical
import TokenBinding.Proofs.Text.Segments
import TokenBinding.Proofs.Token.Reading

/-!
# The parts of a token that is read

A token is cut at its last two points (`split_eq_ok_iff`). Of the parts, header and payload have to
decode, so there is no blank and no separator of any format in them (`plain_of_readPart`). The
signature is not looked at by a reader that does not verify: it may be any text without a point, and
another one in its place changes nothing (`readUnverified_append`).
-/

namespace TokenBinding.Token

open Text (Base64.separators)

namespace Compact

/-- A token is cut into parts that it is put together from, with no point in the last two. Cutting
starts at the end, so further points are left to the header, and a header with a point in it is no
base64. -/
theorem split_eq_ok_iff {token : String} {c : Compact} :
    split token = .ok c ↔ token = c.text ∧ separator ∉ c.payload ∧ separator ∉ c.signature := by
  constructor
  · intro h
    unfold split at h
    split at h
    · cases h
    · next message signature last =>
      split at h
      · cases h
      · next header payload first =>
        cases h
        obtain ⟨whole, freeSignature⟩ := Text.cutLast?_eq_some last
        obtain ⟨front, freePayload⟩ := Text.cutLast?_eq_some first
        refine ⟨?_, freePayload, freeSignature⟩
        rw [← String.ofList_toList (s := token), whole, front]
        rfl
  · rintro ⟨rfl, payload, signature⟩
    have last : Text.cutLast? separator c.text.toList =
        some (c.header ++ separator :: c.payload, c.signature) := by
      rw [text, String.toList_ofList]
      exact Text.cutLast?_append (c.header ++ separator :: c.payload) signature
    simp only [split, last, Text.cutLast?_append c.header payload]

/-- A part is read from the bytes that it is the base64 of. -/
theorem readPart_eq_ok_iff {α : Type} {parse? : Bytes → Option α} {part : List Char} {a : α} :
    readPart parse? part = .ok a ↔
      ∃ bytes, Text.Base64.decode .urlSafe (String.ofList part) = .ok bytes ∧
        parse? bytes = some a := by
  constructor
  · intro h
    unfold readPart at h
    split at h
    · cases h
    · next bytes decoded =>
      split at h
      · next a parsed =>
        cases h
        exact ⟨bytes, decoded, parsed⟩
      · cases h
  · rintro ⟨bytes, decoded, parsed⟩
    simp only [readPart, decoded, parsed]

/-- A part that decodes has no blank and no separator in it. -/
theorem plain_of_readPart {α : Type} {parse? : Bytes → Option α} {part : List Char} {a : α}
    (h : readPart parse? part = .ok a) :
    ∀ c ∈ part, Text.isBlank c = false ∧ c ∉ Base64.separators := by
  obtain ⟨bytes, decoded, -⟩ := readPart_eq_ok_iff.mp h
  intro c mem
  refine Text.Base64.not_separator_of_decode decoded ?_
  rwa [String.toList_ofList]

/-- A text without a point, put behind a token, is put behind its signature. -/
theorem split_append {token : String} {c : Compact} (h : split token = .ok c) {tail : String}
    (free : separator ∉ tail.toList) :
    split (token ++ tail) = .ok { c with signature := c.signature ++ tail.toList } := by
  obtain ⟨rfl, payload, signature⟩ := split_eq_ok_iff.mp h
  refine split_eq_ok_iff.mpr ⟨?_, payload, ?_⟩
  · rw [← String.ofList_toList (s := c.text ++ tail), String.toList_append]
    simp only [text, String.toList_ofList, List.append_assoc, List.cons_append]
  · exact fun mem => (List.mem_append.mp mem).elim signature free

end Compact

variable {α : Type} {wanted : Json.Document → Option α}

/-- A token whose claims can be read has no blank in front of its signature, and of the separators
only the points. -/
theorem exists_front_of_readUnverified {token : String} {a : α}
    (h : readUnverified wanted token = .ok a) :
    ∃ parts front, Compact.split token = .ok parts ∧
      token.toList = front ++ Compact.separator :: parts.signature ∧
      ∀ c ∈ front, Text.isBlank c = false ∧ (c = Compact.separator ∨ c ∉ Base64.separators) := by
  obtain ⟨parts, header, d, cut, head, body, -⟩ := readUnverified_eq_ok_iff.mp h
  refine ⟨parts, parts.header ++ Compact.separator :: parts.payload, cut, ?_, ?_⟩
  · rw [(Compact.split_eq_ok_iff.mp cut).1, Compact.text, String.toList_ofList]
  · intro c mem
    rcases List.mem_append.mp mem with inHeader | behind
    · have plain := Compact.plain_of_readPart head c inHeader
      exact ⟨plain.1, .inr plain.2⟩
    · rcases List.mem_cons.mp behind with rfl | inPayload
      · exact ⟨by decide, .inl rfl⟩
      · have plain := Compact.plain_of_readPart body c inPayload
        exact ⟨plain.1, .inr plain.2⟩

/-- Whatever is put behind a token without a point, its claims read as before. -/
theorem readUnverified_append {token : String} {a : α} (h : readUnverified wanted token = .ok a)
    {tail : String} (free : Compact.separator ∉ tail.toList) :
    readUnverified wanted (token ++ tail) = .ok a := by
  obtain ⟨parts, header, d, cut, head, payload, claims⟩ := readUnverified_eq_ok_iff.mp h
  exact readUnverified_eq_ok_iff.mpr
    ⟨_, header, d, Compact.split_append cut free, head, payload, claims⟩

end TokenBinding.Token
