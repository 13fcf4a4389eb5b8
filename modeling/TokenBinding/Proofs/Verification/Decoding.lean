import TokenBinding.Proofs.Conversation
import TokenBinding.Proofs.Json.Members
import TokenBinding.Proofs.Token.Parts
import TokenBinding.Proofs.Verification.Stages

/-!
# What decodes when it is routed, decodes when it is verified

A token is decoded twice, by two readers that want different claims of one payload. The first reads
issuer and identity to route the token, the second the times and the nonce to verify it, and both
read the registered claims besides. So nothing that is refused while a token is verified was
overlooked while it was routed: header, payload and registered claims decode again.

What is left to be refused are the two claims that the first reader does not want. `Mistyped` says
when they are, by the texts of the members as they stand in the payload. A claim may be absent or
`null`. Else the expiry has to be a whole number of 64 bits, without sign, fraction and exponent,
and the nonce a text. A literal that spells no text, with half a pair of surrogates among its
escapes or with bytes that are no UTF-8, is not a text. The nonce may not stand twice; the expiry
may not either, but a token with two of them is not routed.

Main statement: `check_of_preview`.
-/

namespace TokenBinding

open Authorization.Simulated
open Json (Document Literal ObjectText Value textsOf)
open Token (Compact)

namespace Token

/-- A claim that ties a token to a time or to a fingerprint is written as something else, or the
nonce stands twice. -/
def Mistyped (members : List (String × Bytes)) : Prop :=
  (∃ text ∈ textsOf members "exp", text ≠ Bytes.ofText "null" ∧
    ∀ k < UInt64.size, text ≠ Bytes.ofText (toString k)) ∨
  (∃ text ∈ textsOf members "nonce", text ≠ Bytes.ofText "null" ∧ ∀ s, ¬Literal text (.ok s)) ∨
  1 < (textsOf members "nonce").length

/-- Bound claims are malformed if the expiry is there and no count, or the nonce is there and no
text, or one of them is there twice. -/
theorem BoundClaims.ofDocument?_eq_none_iff {d : Document} :
    BoundClaims.ofDocument? d = none ↔
      d.countMember? "exp" = none ∨ d.textMember? "nonce" = none := by
  cases exp : d.countMember? "exp" <;> cases nonce : d.textMember? "nonce" <;>
    simp [BoundClaims.ofDocument?, exp, nonce]

/-- Where the registered claims decode, the expiry stands once at most. -/
theorem node?_exp_of_registeredClaimsOk {d : Document} (registered : registeredClaimsOk d = true) :
    d.node? "exp" ≠ none := by
  intro twice
  have refused : registeredOk d "exp" passesTime = false := by rw [registeredOk, twice]
  simp only [registeredClaimsOk, refused, Bool.false_and, Bool.false_eq_true] at registered

/-- Where the registered claims decode, the bound claims are refused if they are mistyped. -/
theorem BoundClaims.ofDocument?_eq_none_iff_mistyped {d : Document}
    {members : List (String × Bytes)} (registered : registeredClaimsOk d = true)
    (written : List.Forall₂ Document.IsWritten members d.members) :
    BoundClaims.ofDocument? d = none ↔ Mistyped members := by
  have once : ¬1 < (textsOf members "exp").length := by
    rw [← Document.node?_eq_none_iff written]
    exact node?_exp_of_registeredClaimsOk registered
  rw [ofDocument?_eq_none_iff, Document.countMember?_eq_none_iff written,
    Document.textMember?_eq_none_iff written, or_iff_right once, Mistyped, or_comm (a := 1 < _)]

end Token

namespace RoutedToken

variable {s : Setting} {b : Binder} {r : RoutedToken} {parts : Compact} {header : Token.Header}
  {d : Document} {failure : VerificationFailure}

/-- A token whose header can be read is refused for its key or its signature. -/
theorem eq_of_authenticate_eq_error_of_head {publicKeyCheck : Token.PublicKeyCheck}
    {token : String} {keys : Token.KeySet} (cut : Compact.split token = .ok parts)
    (head : parts.readHeader = .ok header)
    (refused : authenticate publicKeyCheck token keys = .error failure) :
    failure = .keyNotFound ∨ (∃ cause, failure = .signature (.key cause)) ∨
      ∃ cause, failure = .signature (.check cause) := by
  simp only [authenticate, cut, head] at refused
  repeat' split at refused
  all_goals cases refused
  · exact .inl rfl
  · exact .inr (.inl ⟨_, rfl⟩)
  · exact .inr (.inr ⟨_, rfl⟩)

/-- A payload that decodes is refused for the bound claims only. -/
theorem readPayload_eq_error_iff (body : parts.readPayload = .ok d)
    (registered : Token.registeredClaimsOk d = true) :
    readPayload parts = .error failure ↔
      failure = .malformedClaims ∧ Token.BoundClaims.ofDocument? d = none := by
  cases wanted : Token.BoundClaims.ofDocument? d with
  | none => simp only [readPayload, body, Token.readClaims, wanted, Except.error.injEq, eq_comm,
      and_true]
  | some claims => simp only [readPayload, body, Token.readClaims, wanted, registered, if_true,
      reduceCtorEq, and_false]

/-- What the payload of a routed token is refused for comes behind its signature. So malformed
claims are reported of signed tokens only. -/
theorem check_eq_malformedClaims_iff (cut : Compact.split r.token = .ok parts)
    (body : parts.readPayload = .ok d) (registered : Token.registeredClaimsOk d = true) :
    (check s b r).1 = .error .malformedClaims ↔
      r.Signed s.publicKeyCheck parts ∧ Token.BoundClaims.ofDocument? d = none := by
  have early : ¬VerificationFailure.malformedClaims.BehindParties := nofun
  rw [check_eq_error_iff early, trustedClaims_eq_error_iff, signed_iff]
  constructor
  · rintro (unsigned | ⟨parts', signed, unread | ⟨d, claims, -, foreign⟩⟩)
    · rcases eq_of_authenticate_eq_error unsigned with h | ⟨_, h⟩ <;> cases h
    · obtain rfl : parts = parts' :=
        Except.ok.inj (cut.symm.trans (authenticate_eq_ok_iff.mp signed).1)
      exact ⟨signed, ((readPayload_eq_error_iff body registered).mp unread).2⟩
    · rcases eq_of_checkParties_eq_error foreign with h | h <;> cases h
  · rintro ⟨signed, refused⟩
    exact .inr ⟨parts, signed, .inl ((readPayload_eq_error_iff body registered).mpr ⟨rfl, refused⟩)⟩

/-- A token that decodes has no fault besides those of its key and its signature. What could be
wrong with its text was found when it was previewed. -/
theorem fault_of_check {fault : SignatureFault} (cut : Compact.split r.token = .ok parts)
    (head : parts.readHeader = .ok header) (body : parts.readPayload = .ok d)
    (registered : Token.registeredClaimsOk d = true)
    (refused : (check s b r).1 = .error (.signature fault)) :
    (∃ cause, fault = .key cause) ∨ ∃ cause, fault = .check cause := by
  have early : ¬(VerificationFailure.signature fault).BehindParties := nofun
  rw [check_eq_error_iff early, trustedClaims_eq_error_iff] at refused
  -- Only the first stage is left: the payload decodes, and the parties are no fault.
  rcases refused with unsigned | ⟨parts', signed, unread | ⟨_, _, -, foreign⟩⟩
  · rcases eq_of_authenticate_eq_error_of_head cut head unsigned with h | ⟨_, h⟩ | ⟨_, h⟩
    · cases h
    · cases h
      exact .inl ⟨_, rfl⟩
    · cases h
      exact .inr ⟨_, rfl⟩
  · obtain rfl : parts = parts' :=
      Except.ok.inj (cut.symm.trans (authenticate_eq_ok_iff.mp signed).1)
    cases ((readPayload_eq_error_iff body registered).mp unread).1
  · rcases eq_of_checkParties_eq_error foreign with h | h <;> cases h

/-! ## The second decoding -/

/-- What is read of a token. -/
structure Decoded (token : String) (parts : Compact) (header : Token.Header) (payload : Bytes)
    (d : Document) : Prop where
  cut : Compact.split token = .ok parts
  head : parts.readHeader = .ok header
  base64 : Text.Base64.decode .urlSafe (String.ofList parts.payload) = .ok payload
  body : Document.parse? payload = some d
  registered : Token.registeredClaimsOk d = true

/-- How the check of a token goes that has been decoded before. -/
structure DecodedAgain (s : Setting) (b : Binder) (r : RoutedToken) (parts : Compact)
    (payload : Bytes) : Prop where
  /-- It does not fail because the header does not decode. -/
  ofHeader : ∀ cause, (check s b r).1 ≠ .error (.signature (.header cause))
  /-- Nor because the base64 of the payload does not. -/
  ofPayload : ∀ cause, (check s b r).1 ≠ .error (.signature (.payload cause))
  /-- The payload is the text of an object. -/
  object : ∃ members, ObjectText payload members
  /-- It fails for the form of the claims exactly if the token is signed and the members that the
  payload is the text of are mistyped. -/
  malformed : ∀ members, ObjectText payload members →
    ((check s b r).1 = .error .malformedClaims ↔
      r.Signed s.publicKeyCheck parts ∧ Token.Mistyped members)

/-- A token that has a preview is decoded again when it is verified, with whatever keys. If its
signature is good, its claims are malformed exactly if the expiry or the nonce is mistyped; and a
fault in its text, which the preview would have found, is never reported. -/
theorem check_of_preview {registry : Registry} {p : Preview}
    (preview : Preview.ofToken registry r.token = .ok p) (s : Setting) (b : Binder) :
    ∃ parts header payload d, Decoded r.token parts header payload d ∧
      DecodedAgain s b r parts payload := by
  obtain ⟨parts, header, d, -, cut, head, body, registered, -⟩ :=
    Preview.ofToken_eq_ok_iff.mp preview
  obtain ⟨payload, base64, parsed⟩ := Token.Compact.readPart_eq_ok_iff.mp body
  refine ⟨parts, header, payload, d, ⟨cut, head, base64, parsed, registered⟩, ?_⟩
  exact {
    ofHeader := by
      intro cause refused
      rcases fault_of_check cut head body registered refused with ⟨_, h⟩ | ⟨_, h⟩ <;> cases h
    ofPayload := by
      intro cause refused
      rcases fault_of_check cut head body registered refused with ⟨_, h⟩ | ⟨_, h⟩ <;> cases h
    object := Document.exists_objectText_of_parse? parsed
    malformed := by
      intro members text
      -- Whatever the members are, the payload is read as one document only.
      obtain ⟨d', parsed', written⟩ := Document.parse?_of_objectText text
      obtain rfl : d = d' := Option.some.inj (parsed.symm.trans parsed')
      rw [check_eq_malformedClaims_iff cut body registered,
        Token.BoundClaims.ofDocument?_eq_none_iff_mistyped registered written] }

/-- A token of Alpha whose nonce is a number has a preview and is signed, so its claims are
malformed. -/
theorem check_of_preview_alpha :
    let alpha : Registration := Conversation.alphaAndBeta[0]
    let v := Conversation.aliceToBob .sha512
    let claims : List (String × Value) :=
      [("iss", .text alpha.issuer.name), ("email", .text alpha.email), ("nonce", .integer 42)]
    let s : Setting := ⟨.sha512, .none, v.fingerprint, ⟨List.replicate 32 9⟩, .ignore,
      .ofSeconds 60, fun _ => .audience⟩
    let r := alpha.routed 0 (alpha.issuer.sign (.object claims))
    Preview.ofToken (registryOf v.members) r.token = .ok r.preview ∧
      (check s {} r).1 = .error .malformedClaims := by
  intro alpha v claims s r
  have cut : Compact.split r.token = .ok (alpha.issuer.parts claims) := Issuer.split_sign _ _
  have head : (alpha.issuer.parts claims).readHeader = .ok ⟨.hs256, some alpha.issuer.keyId⟩ :=
    Issuer.readHeader_parts _ _
  have wide : Json.Token.IsWide 42 := ⟨by decide, by decide⟩
  have exact : (Value.object claims).Exact := ⟨trivial, trivial, wide, trivial⟩
  have body : (alpha.issuer.parts claims).readPayload = .ok (Document.ofSorted claims) :=
    Issuer.readPayload_parts _ exact
  have registered : Token.registeredClaimsOk (Document.ofSorted claims) = true := by decide +kernel
  have number : Token.BoundClaims.ofDocument? (Document.ofSorted claims) = none := by
    decide +kernel
  have preview : Preview.ofToken (registryOf v.members) r.token = .ok r.preview :=
    Preview.ofToken_eq_ok_iff.mpr ⟨_, _, _, some alpha.issuer.name, cut, head, body, registered,
      by decide +kernel, by decide +kernel, by decide, rfl,
      byIssuer?_registryOf v.family List.mem_cons_self⟩
  refine ⟨preview, ?_⟩
  obtain ⟨parts, header, payload, d, decoded, again⟩ := check_of_preview preview s {}
  obtain rfl : parts = alpha.issuer.parts claims := Except.ok.inj (decoded.cut.symm.trans cut)
  have same := Token.Compact.readPart_eq_ok_iff.mpr ⟨payload, decoded.base64, decoded.body⟩
  obtain rfl : d = Document.ofSorted claims := Except.ok.inj (same.symm.trans body)
  have signed : r.Signed s.publicKeyCheck (alpha.issuer.parts claims) :=
    ⟨cut, _, alpha.issuer.key, .secret alpha.issuer.secret, head, Issuer.select_keySet _, rfl,
      Issuer.verifying_key _, Token.signedUnder_signedParts _ _ _ _⟩
  obtain ⟨members, text⟩ := again.object
  obtain ⟨d', parsed, written⟩ := Document.parse?_of_objectText text
  obtain rfl := Option.some.inj (decoded.body.symm.trans parsed)
  exact (again.malformed members text).mpr ⟨signed,
    (Token.BoundClaims.ofDocument?_eq_none_iff_mistyped registered written).mp number⟩

end RoutedToken

end TokenBinding
