import TokenBinding.Proofs.Token.Reading
import TokenBinding.Proofs.Verification.Verdict

/-!
# What a verified token has behind it

A token is decoded twice on its way to a verdict, once to route it and once to trust it, and the
verdict is spread over the key set, the signature, the parties, the clock and the nonce. `Evidence`
collects what has to be found on that way, all of it read from the one text of the token, and
`Evidence.Supports` says what has to hold of it.

Each stage of the check is inverted on its own (`authenticate_eq_ok_iff`, `readPayload_eq_ok_iff`,
`checkParties_eq_ok_iff`). The evidence does not ask that the registered claims decode, nor that the
issuer claim be a single text: a token that was routed has both from its preview.

Main statement: `verdict_eq_ok_iff`. The verdict on a token that was routed is good exactly if there
is evidence for it.
-/

namespace TokenBinding

namespace ExpiryPolicy

/-- The policy is content: it ignores the time, or the expiry and the leeway together reach it. -/
def Allows (policy : ExpiryPolicy) (leeway : Duration) (expiry? : Option UInt64) : Prop :=
  policy = .ignore ∨
    ∃ now expiry, policy = .at now ∧ expiry? = some expiry ∧
      now.toNat ≤ expiry.toNat + leeway.seconds.toNat

/-- The sum that stops at the largest time admits what the unbounded sum admits. -/
theorem admits_eq_true_iff {policy : ExpiryPolicy} {leeway : Duration} {expiry? : Option UInt64} :
    policy.admits leeway expiry? = true ↔ policy.Allows leeway expiry? := by
  cases policy with
  | ignore => simp only [admits, Allows, true_or]
  | «at» now =>
    cases expiry? with
    | none => simp [admits, Allows]
    | some expiry =>
      have bound : now.toNat < UInt64.size := now.toNat_lt
      simp only [admits, Allows, decide_eq_true_eq, UInt64.le_iff_toNat_le, toNat_saturatingAdd,
        reduceCtorEq, false_or, ExpiryPolicy.at.injEq, Option.some.injEq, exists_and_left,
        exists_eq_left']
      omega

end ExpiryPolicy

namespace RoutedToken

open Json (Document)
open Token (Compact)

/-! ## The stages -/

section Stages

variable {publicKeyCheck : Token.PublicKeyCheck} {first : RequiredClaim}

/-- A signature is good if the token has three parts, its header is read and selects a key that can
be used, and the signature checks under that key and the algorithm of the header. -/
theorem authenticate_eq_ok_iff {token : String} {keys : Token.KeySet} {parts : Compact} :
    authenticate publicKeyCheck token keys = .ok parts ↔
      Compact.split token = .ok parts ∧
        ∃ header key verifying, parts.readHeader = .ok header ∧
          keys.select header.keyId? = some key ∧ key.material.verifying = .ok verifying ∧
          Token.checkSignature publicKeyCheck header.algorithm verifying parts = .ok () := by
  constructor
  · intro h
    unfold authenticate at h
    split at h
    · cases h
    · next cut =>
      split at h
      · cases h
      · next header head =>
        split at h
        · cases h
        · next key selected =>
          split at h
          · cases h
          · next verifying ready =>
            split at h
            · cases h
            · next checked =>
              cases h
              exact ⟨cut, header, key, verifying, head, selected, ready, checked⟩
  · rintro ⟨cut, header, key, verifying, head, selected, ready, checked⟩
    simp only [authenticate, cut, head, selected, ready, checked]

/-- A payload is read if it is an object, its bound claims have the types they must have, and so
have the registered ones. -/
theorem readPayload_eq_ok_iff {parts : Compact} {d : Document} {claims : Token.BoundClaims} :
    readPayload parts = .ok (d, claims) ↔
      parts.readPayload = .ok d ∧ Token.BoundClaims.ofDocument? d = some claims ∧
        Token.registeredClaimsOk d = true := by
  constructor
  · intro h
    unfold readPayload at h
    split at h
    · cases h
    · cases h
    · next d payload =>
      split at h
      · cases h
      · next claims read =>
        cases h
        exact ⟨payload, Token.readClaims_eq_ok_iff.mp read⟩
  · rintro ⟨payload, wanted⟩
    simp only [readPayload, payload, Token.readClaims_eq_ok_iff.mpr wanted]

/-- Both parties are right if each is named under its claim. This does not depend on the claim that
is sought first, which has a say only in what is answered if both are missing. -/
theorem checkParties_eq_ok_iff {d : Document} {issuer clientId : String} :
    checkParties first d issuer clientId = .ok () ↔
      d.Lists "iss" issuer ∧ d.Lists "aud" clientId := by
  rw [← Token.mem_registeredTexts?_iff, ← Token.mem_registeredTexts?_iff]
  constructor
  · intro h
    unfold checkParties at h
    split at h
    · cases h
    · cases h
    · cases h
    · next audiences issuers aud iss =>
      split at h
      · cases h
      · next issuerOk =>
        split at h
        · cases h
        · next audienceOk =>
          exact ⟨⟨issuers, iss, Decidable.not_not.mp issuerOk⟩,
            ⟨audiences, aud, Decidable.not_not.mp audienceOk⟩⟩
  · rintro ⟨⟨issuers, iss, issuerOk⟩, audiences, aud, audienceOk⟩
    simp only [checkParties, iss, aud, issuerOk, audienceOk, not_true, if_false]

/-! What a stage refuses a token for. -/

/-- Of what can be wrong with a token, the check of its signature finds only that there is no key
for it and that its signature is at fault. -/
theorem eq_of_authenticate_eq_error {token : String} {keys : Token.KeySet}
    {failure : VerificationFailure}
    (refused : authenticate publicKeyCheck token keys = .error failure) :
    failure = .keyNotFound ∨ ∃ fault, failure = .signature fault := by
  unfold authenticate at refused
  repeat' split at refused
  all_goals cases refused
  all_goals first | exact .inl rfl | exact .inr ⟨_, rfl⟩

/-- Of what can be wrong with a token, the reading of its payload finds only that claims are
malformed and that the payload cannot be read. -/
theorem eq_of_readPayload_eq_error {parts : Compact} {failure : VerificationFailure}
    (refused : readPayload parts = .error failure) :
    failure = .malformedClaims ∨ ∃ cause, failure = .signature (.payload cause) := by
  unfold readPayload at refused
  repeat' split at refused
  all_goals cases refused
  all_goals first | exact .inl rfl | exact .inr ⟨_, rfl⟩

/-- Of what can be wrong with a token, the check of its parties finds only the issuer and the
audience. -/
theorem eq_of_checkParties_eq_error {d : Document} {issuer clientId : String}
    {failure : VerificationFailure}
    (refused : checkParties first d issuer clientId = .error failure) :
    failure = .issuer ∨ failure = .audience := by
  unfold checkParties at refused
  repeat' split at refused
  all_goals cases refused
  · cases first
    · exact .inl rfl
    · exact .inr rfl
  all_goals first | exact .inl rfl | exact .inr rfl

/-- Claims are trusted if the signature is good, the payload is read and both parties are right, in
this order. -/
theorem trustedClaims_eq_ok_iff {r : RoutedToken} {claims : Token.BoundClaims} :
    trustedClaims publicKeyCheck first r = .ok claims ↔
      ∃ parts d, authenticate publicKeyCheck r.token r.keys = .ok parts ∧
        readPayload parts = .ok (d, claims) ∧
        checkParties first d r.metadata.issuer r.preview.provider.clientId = .ok () := by
  constructor
  · intro h
    unfold trustedClaims at h
    split at h
    · cases h
    · next parts signed =>
      split at h
      · cases h
      · next d read payload =>
        split at h
        · cases h
        · next parties =>
          cases h
          exact ⟨parts, d, signed, payload, parties⟩
  · rintro ⟨parts, d, signed, payload, parties⟩
    simp only [trustedClaims, signed, payload, parties]

/-- Claims are not trusted for what the first stage that fails refuses them for. The stages are the
signature, the payload and the parties. -/
theorem trustedClaims_eq_error_iff {r : RoutedToken} {failure : VerificationFailure} :
    trustedClaims publicKeyCheck first r = .error failure ↔
      authenticate publicKeyCheck r.token r.keys = .error failure ∨
        ∃ parts, authenticate publicKeyCheck r.token r.keys = .ok parts ∧
          (readPayload parts = .error failure ∨
            ∃ d claims, readPayload parts = .ok (d, claims) ∧
              checkParties first d r.metadata.issuer r.preview.provider.clientId =
                .error failure) := by
  cases signed : authenticate publicKeyCheck r.token r.keys with
  | error cause =>
    simp only [trustedClaims, signed, Except.error.injEq, reduceCtorEq, false_and, exists_false,
      or_false]
  | ok parts =>
    cases payload : readPayload parts with
    | error cause =>
      simp only [trustedClaims, signed, payload, Except.error.injEq, reduceCtorEq, false_and,
        exists_false, or_false, false_or, Except.ok.injEq, exists_eq_left']
    | ok read =>
      obtain ⟨d, claims⟩ := read
      cases parties : checkParties first d r.metadata.issuer r.preview.provider.clientId <;>
        simp [trustedClaims, signed, payload, parties]

end Stages

/-! ## The evidence -/

/-- What is found on the way to a verdict. -/
structure Evidence where
  parts : Compact
  header : Token.Header
  payload : Document
  /-- The key that the header selects from the fetched set. -/
  key : Token.Key
  verifying : Token.VerifyingKey
  /-- The expiry claim of the payload, if it has one. -/
  expiry? : Option UInt64
  /-- The nonce claim of the payload. -/
  claim : String
  nonce : CompoundNonce

/-- What has to hold of the evidence for a routed token. -/
structure Evidence.Supports (v : Evidence) (s : Setting) (r : RoutedToken) : Prop where
  cut : Compact.split r.token = .ok v.parts
  head : v.parts.readHeader = .ok v.header
  body : v.parts.readPayload = .ok v.payload
  selected : r.keys.select v.header.keyId? = some v.key
  family : v.key.material.family = v.header.algorithm.family
  ready : v.key.material.verifying = .ok v.verifying
  signature : v.parts.SignedUnder s.publicKeyCheck v.header.algorithm v.verifying
  issuer : v.payload.textMember? "iss" = some (some r.metadata.issuer)
  discovery : r.metadata.issuer ++ discoverySuffix = r.preview.provider.discoveryUrl
  audience : v.payload.Lists "aud" r.preview.provider.clientId
  expiry : v.payload.countMember? "exp" = some v.expiry?
  time : s.expiry.Allows s.leeway v.expiry?
  carried : v.payload.textMember? "nonce" = some (some v.claim)
  spelled : CompoundNonce.parse v.claim = .ok v.nonce
  bound : v.nonce.hash = stretch s.digest s.fingerprint.bytes s.salt.bytes

/-- The verdict is good exactly if the claims are trusted, the time is right and the nonce is
bound. -/
theorem verdict_eq_ok_iff_trusted {s : Setting} {r : RoutedToken} :
    verdict s r = .ok () ↔
      ∃ claims, trustedClaims s.publicKeyCheck (s.firstSought r.index) r = .ok claims ∧
        s.expiry.Allows s.leeway claims.expiry? ∧
        Binder.verdict s.digest claims.nonce? s.fingerprint s.salt = .ok () := by
  cases trusted : trustedClaims s.publicKeyCheck (s.firstSought r.index) r with
  | error e => simp only [verdict, trusted, reduceCtorEq, false_and, exists_false]
  | ok claims =>
    simp only [verdict, trusted, Except.ok.injEq, exists_eq_left',
      ← ExpiryPolicy.admits_eq_true_iff]
    by_cases admitted : s.expiry.admits s.leeway claims.expiry? = true
    · simp only [admitted, Bool.not_true, Bool.false_eq_true, if_false, true_and]
      split
      · next bound => simp only [bound]
      · next refused => simp only [refused, reduceCtorEq]
    · simp only [admitted, Bool.not_false, if_true, reduceCtorEq, Bool.false_eq_true, false_and]

/-- The issuer claim of a routed token is one text, or is not there. -/
theorem lists_issuer_iff {d : Document} {issuer? : Option String} {issuer : String}
    (iss : d.textMember? "iss" = some issuer?) : d.Lists "iss" issuer ↔ issuer? = some issuer := by
  rw [← Token.mem_registeredTexts?_iff]
  cases issuer? with
  | none => simp only [Token.registeredTexts?_of_absent iss, reduceCtorEq, false_and, exists_false]
  | some text =>
    simp only [Token.registeredTexts?_of_text iss, Option.some.injEq, exists_eq_left',
      List.mem_singleton]
    exact eq_comm

theorem discoveryUrl_of_byIssuer? {registry : Registry} {issuer : String} {p : Provider}
    (h : registry.byIssuer? issuer = some p) : issuer ++ discoverySuffix = p.discoveryUrl := by
  have found := List.find?_some h
  simp only [Provider.matchesIssuer, beq_iff_eq] at found
  exact found.symm

/-- The claims of a token with evidence are trusted, as long as the registered ones decode. The
evidence does not say so of all of them, and for a routed token need not. -/
theorem Evidence.Supports.trustedClaims {v : Evidence} {s : Setting} {r : RoutedToken}
    (h : v.Supports s r) (registered : Token.registeredClaimsOk v.payload = true) :
    trustedClaims s.publicKeyCheck (s.firstSought r.index) r =
      .ok ⟨v.expiry?, some v.claim⟩ := by
  have checked : Token.checkSignature s.publicKeyCheck v.header.algorithm v.verifying v.parts =
      .ok () :=
    Token.checkSignature_eq_ok_iff.mpr
      ⟨(Token.KeyMaterial.family_verifying h.ready).trans h.family, h.signature⟩
  have signed : authenticate s.publicKeyCheck r.token r.keys = .ok v.parts :=
    authenticate_eq_ok_iff.mpr
      ⟨h.cut, v.header, v.key, v.verifying, h.head, h.selected, h.ready, checked⟩
  have payload : readPayload v.parts = .ok (v.payload, ⟨v.expiry?, some v.claim⟩) :=
    readPayload_eq_ok_iff.mpr
      ⟨h.body, Token.BoundClaims.ofDocument?_eq_some_iff.mpr ⟨h.expiry, h.carried⟩, registered⟩
  have issuer : v.payload.Lists "iss" r.metadata.issuer := (lists_issuer_iff h.issuer).mpr rfl
  exact trustedClaims_eq_ok_iff.mpr
    ⟨v.parts, v.payload, signed, payload, checkParties_eq_ok_iff.mpr ⟨issuer, h.audience⟩⟩

/-- The verdict on a token that has a preview is good exactly if there is evidence for it. From the
verdict the evidence is collected stage by stage; from the evidence each stage is passed. -/
theorem verdict_eq_ok_iff {registry : Registry} {s : Setting} {r : RoutedToken}
    (preview : Preview.ofToken registry r.token = .ok r.preview) :
    verdict s r = .ok () ↔ ∃ v : Evidence, v.Supports s r := by
  obtain ⟨parts, header, d, issuer?, cut, head, body, registered, iss, -, -, named, provider⟩ :=
    Preview.ofToken_eq_ok_iff.mp preview
  rw [verdict_eq_ok_iff_trusted]
  constructor
  · rintro ⟨claims, trusted, time, bound⟩
    obtain ⟨parts', d', signed, payload, parties⟩ := trustedClaims_eq_ok_iff.mp trusted
    obtain ⟨cut', header', key, verifying, head', selected, ready, checked⟩ :=
      authenticate_eq_ok_iff.mp signed
    obtain ⟨body', wanted, -⟩ := readPayload_eq_ok_iff.mp payload
    -- The check decodes what the preview has decoded before.
    obtain rfl : parts = parts' := Except.ok.inj (cut.symm.trans cut')
    obtain rfl : d = d' := Except.ok.inj (body.symm.trans body')
    obtain ⟨expiry, carried⟩ := Token.BoundClaims.ofDocument?_eq_some_iff.mp wanted
    obtain ⟨family, signature⟩ := Token.checkSignature_eq_ok_iff.mp checked
    obtain ⟨issuer, audience⟩ := checkParties_eq_ok_iff.mp parties
    obtain ⟨claim, nonce, hclaim, spelled, hash⟩ := Binder.verdict_eq_ok_iff.mp bound
    obtain rfl : issuer? = some r.metadata.issuer := (lists_issuer_iff iss).mp issuer
    rw [named] at provider
    refine ⟨⟨parts, header', d, key, verifying, claims.expiry?, claim, nonce⟩, ?_⟩
    exact {
      cut := cut
      head := head'
      body := body
      selected := selected
      family := (Token.KeyMaterial.family_verifying ready).symm.trans family
      ready := ready
      signature := signature
      issuer := iss
      discovery := discoveryUrl_of_byIssuer? provider
      audience := audience
      expiry := expiry
      time := time
      carried := hclaim ▸ carried
      spelled := spelled
      bound := hash }
  · rintro ⟨v, h⟩
    obtain rfl : parts = v.parts := Except.ok.inj (cut.symm.trans h.cut)
    obtain rfl : d = v.payload := Except.ok.inj (body.symm.trans h.body)
    refine ⟨⟨v.expiry?, some v.claim⟩, h.trustedClaims registered, h.time, ?_⟩
    exact Binder.verdict_eq_ok_iff.mpr ⟨v.claim, v.nonce, rfl, h.spelled, h.bound⟩

end RoutedToken

end TokenBinding
