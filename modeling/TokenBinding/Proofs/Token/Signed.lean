import TokenBinding.Issuer
import TokenBinding.Proofs.Json.Printed
import TokenBinding.Proofs.Token.Parts

/-!
# Tokens that were signed

A token that was signed is cut into the parts it was put together from, because base64 has no point
in it, and each part gives back what it was made of (`split_sign`, `readPart_encode`). Its signature
is good under the secret that made it (`signedUnder_signedParts`).

For a token of an issuer this is put together from the other side: the header names the key that the
issuer publishes, that key decodes to its secret, and the payload is the document of the claims.
-/

namespace TokenBinding

namespace Token

open Text (Base64.encode Base64.decode_encode Base64.not_separator_of_mem_encode)

/-- A part of a token. -/
def encodePart (bs : Bytes) : List Char := (Base64.encode .urlSafe bs).toList

/-- The parts of a token that is signed under a shared secret. -/
def signedParts (secret header payload : Bytes) : Compact where
  header := encodePart header
  payload := encodePart payload
  signature :=
    encodePart (Hash.hmac Hash.Sha2.sha256 64 secret
      (Bytes.ofText (Compact.message ⟨encodePart header, encodePart payload, []⟩)))

theorem sign_eq_text (secret header payload : Bytes) :
    sign secret header payload = (signedParts secret header payload).text := rfl

/-- A character of a part is not blank and separates nothing. -/
theorem plain_of_mem_encodePart {bs : Bytes} {c : Char} (h : c ∈ encodePart bs) :
    Text.isBlank c = false ∧ c ∉ Text.Base64.separators :=
  Base64.not_separator_of_mem_encode .urlSafe h

theorem separator_not_mem_encodePart (bs : Bytes) : Compact.separator ∉ encodePart bs := by
  intro mem
  exact (plain_of_mem_encodePart mem).2 (by decide)

theorem split_sign (secret header payload : Bytes) :
    Compact.split (sign secret header payload) = .ok (signedParts secret header payload) := by
  rw [sign_eq_text, Compact.split_eq_ok_iff]
  refine ⟨rfl, ?_, ?_⟩
  · simp only [signedParts, separator_not_mem_encodePart, not_false_eq_true]
  · simp only [signedParts, separator_not_mem_encodePart, not_false_eq_true]

/-- A part that was encoded is read as what its bytes are read as. -/
theorem Compact.readPart_encodePart {α : Type} {parse? : Bytes → Option α} {bs : Bytes} {a : α}
    (h : parse? bs = some a) : readPart parse? (encodePart bs) = .ok a := by
  refine readPart_eq_ok_iff.mpr ⟨bs, ?_, h⟩
  rw [encodePart, String.ofList_toList, Base64.decode_encode]

/-- The signature is good under the secret. -/
theorem signedUnder_signedParts (publicKeyCheck : PublicKeyCheck) (secret header payload : Bytes) :
    (signedParts secret header payload).SignedUnder publicKeyCheck .hs256 (.secret secret) := by
  refine ⟨_, rfl, ?_⟩
  simp only [signedParts, encodePart, Compact.message, String.ofList_toList]

/-- A character of a signed token is the point, or one of its parts'. -/
theorem mem_sign {secret header payload : Bytes} {c : Char}
    (h : c ∈ (sign secret header payload).toList) :
    c = Compact.separator ∨ ∃ bs, c ∈ encodePart bs := by
  rw [sign_eq_text, Compact.text, String.toList_ofList] at h
  simp only [signedParts] at h
  rcases List.mem_append.mp h with front | signature
  · rcases List.mem_append.mp front with header | payload
    · exact .inr ⟨_, header⟩
    · rcases List.mem_cons.mp payload with point | payload
      · exact .inl point
      · exact .inr ⟨_, payload⟩
  · rcases List.mem_cons.mp signature with point | signature
    · exact .inl point
    · exact .inr ⟨_, signature⟩

end Token

namespace Issuer

open Json (Document Value)

variable (i : Issuer)

/-- The parts of a token over these claims. -/
def parts (ms : List (String × Value)) : Token.Compact :=
  Token.signedParts i.secret (Bytes.ofText i.header.compact)
    (Bytes.ofText (Value.object ms).canonical.compact)

/-- A token that an issuer signed is cut into the parts it was made of. -/
theorem split_sign (ms : List (String × Value)) :
    Token.Compact.split (i.sign (.object ms)) = .ok (i.parts ms) :=
  Token.split_sign _ _ _

/-- The header is read back: the algorithm, and the id of the key. -/
theorem readHeader_parts (ms : List (String × Value)) :
    (i.parts ms).readHeader = .ok ⟨.hs256, some i.keyId⟩ := by
  have exact : i.header.Exact := ⟨trivial, trivial, trivial, trivial⟩
  have parsed : Token.Header.parse? (Bytes.ofText i.header.compact) =
      some ⟨.hs256, some i.keyId⟩ := by
    rw [Token.Header.parse?, header, Document.parseLaid?_printed exact]
    rfl
  have part : (i.parts ms).header = Token.encodePart (Bytes.ofText i.header.compact) := by
    simp only [parts, Token.signedParts]
  rw [Token.Compact.readHeader, part, Token.Compact.readPart_encodePart parsed]

/-- The payload is the document of the claims. -/
theorem readPayload_parts {ms : List (String × Value)} (exact : (Value.object ms).Exact) :
    (i.parts ms).readPayload = .ok (Document.ofSorted ms) := by
  have part : (i.parts ms).payload =
      Token.encodePart (Bytes.ofText (Value.object ms).canonical.compact) := by
    simp only [parts, Token.signedParts]
  rw [Token.Compact.readPayload, part,
    Token.Compact.readPart_encodePart (Document.parse?_canonical exact)]

/-- The key that an issuer publishes. -/
def key : Token.Key where
  material := .octets (Text.Base64.encode .urlSafe i.secret)
  id? := some i.keyId
  algorithm? := some Token.Algorithm.hs256.name

/-- The header names the key that is published. -/
theorem select_keySet : i.keySet.select (some i.keyId) = some i.key := by
  simp only [keySet, Token.KeySet.select, List.find?_cons, beq_self_eq_true]
  rfl

/-- The key that is published decodes to the secret that signs. -/
theorem verifying_key : i.key.material.verifying = .ok (.secret i.secret) := by
  simp only [key, Token.KeyMaterial.verifying, Text.Base64.decode_encode]
  rfl

end Issuer

end TokenBinding
