import TokenBinding.Preview
import TokenBinding.Proofs.Except
import TokenBinding.Token.Signature

/-!
# What the readers of a token accept

Each reader of a token is a chain of steps that may refuse, and is inverted here once: what it
accepts is said as the conjunction of its steps (`readUnverified_eq_ok_iff`, `ofToken_eq_ok_iff`,
`checkSignature_eq_ok_iff`), without its order of refusals.

The two sides that a claim may be compared with are stated on their own: `Document.Lists`, a member
that is a text or lists it, and `Compact.SignedUnder`, a signature that is good under a key.
-/

namespace TokenBinding

namespace Json.Document

variable {d : Document} {name s : String}

theorem textMember?_eq_some_some_iff :
    d.textMember? name = some (some s) ↔ d.member? name = some (some (.text s)) := by
  unfold textMember?
  constructor
  · intro h
    split at h
    · cases h
    · next found => cases h; exact found
    · cases h
  · intro h
    simp only [h]

/-- A member is absent as a text if it is absent, or has nothing as its value. -/
theorem textMember?_eq_some_none_iff :
    d.textMember? name = some none ↔ d.member? name = some none := by
  unfold textMember?
  constructor
  · intro h
    split at h
    · next found => exact found
    · cases h
    · cases h
  · intro h
    simp only [h]

/-- A list of values is read as texts if there is nothing but texts in it. -/
theorem textItems?_eq_some_iff {items : List Value} {texts : List String} :
    textItems? items = some texts ↔ items = texts.map .text := by
  induction items generalizing texts with
  | nil => simp only [textItems?, Option.some.injEq, eq_comm, List.map_eq_nil_iff]
  | cons v rest ih =>
    cases v with
    | text t =>
      simp only [textItems?, Option.map_eq_some_iff, ih]
      constructor
      · rintro ⟨more, rfl, rfl⟩
        rfl
      · intro h
        cases texts with
        | nil => cases h
        | cons t' more =>
          simp only [List.map_cons, List.cons.injEq, Value.text.injEq] at h
          exact ⟨more, h.2, by rw [h.1]⟩
    | _ =>
      constructor
      · intro h
        cases h
      · intro h
        cases texts <;> cases h

/-- A member that is this text, or is a list of texts with this one among them. -/
def Lists (d : Document) (name s : String) : Prop :=
  d.member? name = some (some (.text s)) ∨
    ∃ texts : List String, d.member? name = some (some (.array (texts.map .text))) ∧ s ∈ texts

end Json.Document

namespace Token

open Json (Document)

/-- A registered claim has a value exactly if its member lists it, alone or in an array. -/
theorem mem_registeredTexts?_iff {d : Document} {name s : String} :
    (∃ texts, registeredTexts? d name = some texts ∧ s ∈ texts) ↔ d.Lists name s := by
  unfold registeredTexts? Document.Lists
  constructor
  · rintro ⟨texts, h, mem⟩
    split at h
    · next v found =>
      cases v with
      | text t =>
        cases h
        exact .inl (by rw [found, List.mem_singleton.mp mem])
      | array items =>
        exact .inr ⟨texts, by rw [found, Document.textItems?_eq_some_iff.mp h], mem⟩
      | _ => cases h
    · cases h
  · rintro (found | ⟨texts, found, mem⟩)
    · exact ⟨[s], by simp only [found, oneOrMore?], List.mem_singleton_self s⟩
    · refine ⟨texts, ?_, mem⟩
      simp only [found, oneOrMore?]
      exact Document.textItems?_eq_some_iff.mpr rfl

/-- A claim that is a text has that one value. -/
theorem registeredTexts?_of_text {d : Document} {name s : String}
    (h : d.textMember? name = some (some s)) : registeredTexts? d name = some [s] := by
  simp only [registeredTexts?, Document.textMember?_eq_some_some_iff.mp h, oneOrMore?]

/-- A claim that is absent has no value. -/
theorem registeredTexts?_of_absent {d : Document} {name : String}
    (h : d.textMember? name = some none) : registeredTexts? d name = none := by
  simp only [registeredTexts?, Document.textMember?_eq_some_none_iff.mp h]

/-- The claims for routing are the issuer and the identity, each a text or absent. -/
theorem RoutingClaims.ofDocument?_eq_some_iff {d : Document} {claims : RoutingClaims} :
    RoutingClaims.ofDocument? d = some claims ↔
      d.textMember? "iss" = some claims.issuer? ∧
        d.textMember? identityClaim = some claims.identity? := by
  simp only [RoutingClaims.ofDocument?, Option.bind_eq_bind, Option.bind_eq_some_iff,
    Option.pure_def, Option.some.injEq]
  constructor
  · rintro ⟨issuer?, iss, identity?, identity, rfl⟩
    exact ⟨iss, identity⟩
  · rintro ⟨iss, identity⟩
    exact ⟨_, iss, _, identity, rfl⟩

/-- The bound claims are the expiry, a count, and the nonce, a text, each of which may be absent. -/
theorem BoundClaims.ofDocument?_eq_some_iff {d : Document} {claims : BoundClaims} :
    BoundClaims.ofDocument? d = some claims ↔
      d.countMember? "exp" = some claims.expiry? ∧ d.textMember? "nonce" = some claims.nonce? := by
  simp only [BoundClaims.ofDocument?, Option.bind_eq_bind, Option.bind_eq_some_iff,
    Option.pure_def, Option.some.injEq]
  constructor
  · rintro ⟨expiry?, exp, nonce?, nonce, rfl⟩
    exact ⟨exp, nonce⟩
  · rintro ⟨exp, nonce⟩
    exact ⟨_, exp, _, nonce, rfl⟩

variable {α : Type} {wanted : Document → Option α}

/-- Wanted claims are read if they are there and the registered claims have the types they must
have, wanted or not. -/
theorem readClaims_eq_ok_iff {d : Document} {a : α} :
    readClaims wanted d = .ok a ↔ wanted d = some a ∧ registeredClaimsOk d = true := by
  cases found : wanted d with
  | none => simp only [readClaims, found, reduceCtorEq, false_and]
  | some b =>
    cases registered : registeredClaimsOk d <;>
      simp only [readClaims, found, registered, Bool.false_eq_true, if_false, if_true, reduceCtorEq,
        and_false, and_true, Except.ok.injEq, Option.some.injEq]

/-- Unverified claims are read from a token of three parts whose header and payload decode. -/
theorem readUnverified_eq_ok_iff {token : String} {a : α} :
    readUnverified wanted token = .ok a ↔
      ∃ parts header d, Compact.split token = .ok parts ∧ parts.readHeader = .ok header ∧
        parts.readPayload = .ok d ∧ wanted d = some a ∧ registeredClaimsOk d = true := by
  constructor
  · intro h
    unfold readUnverified at h
    split at h
    · cases h
    · next parts split =>
      split at h
      · cases h
      · next header head =>
        split at h
        · cases h
        · next d payload =>
          exact ⟨parts, header, d, split, head, payload, readClaims_eq_ok_iff.mp h⟩
  · rintro ⟨parts, header, d, split, head, payload, claims⟩
    simp only [readUnverified, split, head, payload]
    exact readClaims_eq_ok_iff.mpr claims

/-- The unverified nonce of a token is read as one member, a text or absent. -/
theorem unverifiedNonce_eq_ok_iff {token : String} {nonce? : Option String} :
    unverifiedNonce token = .ok nonce? ↔
      readUnverified (fun d => d.textMember? "nonce") token = .ok nonce? := by
  unfold unverifiedNonce
  split
  · next h => simp only [h, reduceCtorEq]
  · next h => simp only [h, Except.ok.injEq]

/-! ## Signatures -/

/-- A key that is ready to verify is of the family of what it was made from. -/
theorem KeyMaterial.family_verifying {m : KeyMaterial} {key : VerifyingKey}
    (h : m.verifying = .ok key) : key.family = m.family := by
  cases m with
  | octets k =>
    obtain ⟨_, -, made⟩ := bind_eq_ok h
    cases made; rfl
  | rsa n e =>
    obtain ⟨_, -, h⟩ := bind_eq_ok h
    obtain ⟨_, -, made⟩ := bind_eq_ok h
    cases made; rfl
  | ellipticCurve c x y =>
    obtain ⟨_, -, h⟩ := bind_eq_ok h
    obtain ⟨_, -, made⟩ := bind_eq_ok h
    cases made; rfl
  | octetPair c x =>
    obtain ⟨_, -, made⟩ := bind_eq_ok h
    cases made; rfl

/-- A signature that is good under a key: under a secret it is the text of the authentication code,
under a public key its bytes are accepted by the check of the scheme. -/
def Compact.SignedUnder (publicKeyCheck : PublicKeyCheck) (a : Algorithm) (key : VerifyingKey)
    (parts : Compact) : Prop :=
  match key with
  | .secret secret =>
    ∃ mac, macBytes a secret (Bytes.ofText parts.message) = some mac ∧
      Text.Base64.encode .urlSafe mac = String.ofList parts.signature
  | key =>
    ∃ signature, Text.Base64.decode .urlSafe (String.ofList parts.signature) = .ok signature ∧
      publicKeyCheck a key (Bytes.ofText parts.message) signature = true

/-- A signature passes exactly if it is good under a key of the family of its algorithm. -/
theorem checkSignature_eq_ok_iff {publicKeyCheck : PublicKeyCheck} {a : Algorithm}
    {key : VerifyingKey} {parts : Compact} :
    checkSignature publicKeyCheck a key parts = .ok () ↔
      key.family = a.family ∧ parts.SignedUnder publicKeyCheck a key := by
  by_cases family : key.family = a.family
  · cases key with
    | secret secret =>
      cases mac : macBytes a secret (Bytes.ofText parts.message) <;>
        simp [checkSignature, Compact.SignedUnder, family, mac]
    | _ =>
      cases decoded : Text.Base64.decode .urlSafe (String.ofList parts.signature) <;>
        simp [checkSignature, Compact.SignedUnder, family, decoded]
  · simp only [checkSignature, ne_eq, family, not_false_eq_true, if_true, reduceCtorEq, false_and]

end Token

namespace Preview

/-- Claims are routed if they name an identity and a registered issuer. An identity of blanks is
none. -/
theorem ofClaims_eq_ok_iff {registry : Registry} {claims : Token.RoutingClaims} {p : Preview} :
    ofClaims registry claims = .ok p ↔
      claims.identity? = some p.claimedIdentity ∧
        p.claimedIdentity.toList.all Text.isBlank = false ∧
        p.issuer = claims.issuer?.getD "" ∧ registry.byIssuer? p.issuer = some p.provider := by
  obtain ⟨issuer?, identity?⟩ := claims
  constructor
  · intro h
    cases identity? with
    | none => cases h
    | some identity =>
      simp only [ofClaims] at h
      split at h
      · cases h
      · next nonBlank =>
        split at h
        · cases h
        · next provider found =>
          cases h
          exact ⟨rfl, Bool.eq_false_iff.mpr nonBlank, rfl, found⟩
  · rintro ⟨rfl, nonBlank, issuer, provider⟩
    rw [issuer] at provider
    simp only [ofClaims, nonBlank, Bool.false_eq_true, if_false, provider]
    rw [← issuer]

/-- What a token has that is routed: it decodes, it names an identity, and its issuer is that of the
first provider with the matching address. -/
theorem ofToken_eq_ok_iff {registry : Registry} {token : String} {p : Preview} :
    ofToken registry token = .ok p ↔
      ∃ parts header d issuer?, Token.Compact.split token = .ok parts ∧
        parts.readHeader = .ok header ∧ parts.readPayload = .ok d ∧
        Token.registeredClaimsOk d = true ∧ d.textMember? "iss" = some issuer? ∧
        d.textMember? Token.identityClaim = some (some p.claimedIdentity) ∧
        p.claimedIdentity.toList.all Text.isBlank = false ∧
        p.issuer = issuer?.getD "" ∧ registry.byIssuer? p.issuer = some p.provider := by
  constructor
  · intro h
    unfold ofToken at h
    split at h
    · cases h
    · next claims read =>
      obtain ⟨parts, header, d, split, head, payload, wanted, registered⟩ :=
        Token.readUnverified_eq_ok_iff.mp read
      obtain ⟨iss, identity⟩ := Token.RoutingClaims.ofDocument?_eq_some_iff.mp wanted
      obtain ⟨named, rest⟩ := ofClaims_eq_ok_iff.mp h
      exact ⟨parts, header, d, claims.issuer?, split, head, payload, registered, iss,
        named ▸ identity, rest⟩
  · rintro ⟨parts, header, d, issuer?, split, head, payload, registered, iss, identity, rest⟩
    have read : Token.readUnverified Token.RoutingClaims.ofDocument? token =
        .ok ⟨issuer?, some p.claimedIdentity⟩ :=
      Token.readUnverified_eq_ok_iff.mpr ⟨parts, header, d, split, head, payload,
        Token.RoutingClaims.ofDocument?_eq_some_iff.mpr ⟨iss, identity⟩, registered⟩
    simp only [ofToken, read]
    exact ofClaims_eq_ok_iff.mpr ⟨rfl, rest⟩

end Preview

end TokenBinding
