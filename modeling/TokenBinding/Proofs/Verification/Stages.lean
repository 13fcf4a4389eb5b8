import TokenBinding.Proofs.Hash.Chain
import TokenBinding.Proofs.Verification.Kept
import TokenBinding.Proofs.Verification.NamesNeither
import TokenBinding.Proofs.Verification.Verified

/-!
# What a failure gives away

A token is checked in stages, and its failure says how far it came. `Refused` has a case for each
stage, with all that the stages before it have found, and a verdict is never given up in another way
(`verdict_eq_error_iff`). What a failure says of its token is read off these cases.

The stages up to the parties look at the token and at what was fetched for it. Fingerprint, salt,
expiry policy and leeway come into play behind them only, so a token that does not get there has the
same outcome whatever these are (`verdict_eq_of_distrusted`). Who cannot sign for a provider cannot
probe the fingerprint of another party by sending tokens and looking at the failures.

What it does not establish. A failure is compared as a value. How long it took to come by it, and
what the log says beside it, are not.

Main statement: `run_failures_staged`.
-/

namespace TokenBinding

open Json (Document)
open Token (Compact)

namespace VerificationFailure

/-- The failure is about something else than the key and the signature. -/
def BehindSignature (failure : VerificationFailure) : Prop :=
  failure ≠ .keyNotFound ∧ ∀ fault, failure ≠ .signature fault

/-- The failure is about the time or the nonce. -/
def BehindParties (failure : VerificationFailure) : Prop :=
  failure = .expired ∨ failure.OfNonce

theorem ofNonce_ofNonceError (cause : NonceError) : (ofNonceError cause).OfNonce := by
  cases cause with
  | missing => exact .inl rfl
  | mismatch => exact .inr (.inr rfl)
  | invalid _ => exact .inr (.inl rfl)
  | invalidSalt _ => exact .inr (.inl rfl)

end VerificationFailure

namespace RoutedToken

/-! ## What is found of a token -/

/-- The token has these parts, its header selects a key of the fetched set that is of the family of
the header's algorithm, and the signature is good under that key. -/
def Signed (publicKeyCheck : Token.PublicKeyCheck) (r : RoutedToken) (parts : Compact) : Prop :=
  Compact.split r.token = .ok parts ∧
    ∃ header key verifying, parts.readHeader = .ok header ∧
      r.keys.select header.keyId? = some key ∧
      key.material.family = header.algorithm.family ∧ key.material.verifying = .ok verifying ∧
      parts.SignedUnder publicKeyCheck header.algorithm verifying

/-- The payload names the issuer that the provider's document gives, and lists the client. -/
def NamesParties (r : RoutedToken) (parts : Compact) : Prop :=
  ∃ d, parts.readPayload = .ok d ∧ d.Lists "iss" r.metadata.issuer ∧
    d.Lists "aud" r.preview.provider.clientId

/-- The expiry claim of the payload, if there is one, is good under the policy. -/
def InTime (expiry : ExpiryPolicy) (leeway : Duration) (parts : Compact) : Prop :=
  ∃ d expiry?, parts.readPayload = .ok d ∧ d.countMember? "exp" = some expiry? ∧
    expiry.Allows leeway expiry?

variable {publicKeyCheck : Token.PublicKeyCheck} {first : RequiredClaim} {s s' : Setting}
  {r : RoutedToken} {parts : Compact} {failure : VerificationFailure}

theorem signed_iff :
    r.Signed publicKeyCheck parts ↔ authenticate publicKeyCheck r.token r.keys = .ok parts := by
  rw [authenticate_eq_ok_iff]
  constructor
  · rintro ⟨cut, header, key, verifying, head, selected, family, ready, good⟩
    have kind : verifying.family = header.algorithm.family :=
      (Token.KeyMaterial.family_verifying ready).trans family
    exact ⟨cut, header, key, verifying, head, selected, ready,
      Token.checkSignature_eq_ok_iff.mpr ⟨kind, good⟩⟩
  · rintro ⟨cut, header, key, verifying, head, selected, ready, checked⟩
    obtain ⟨kind, good⟩ := Token.checkSignature_eq_ok_iff.mp checked
    exact ⟨cut, header, key, verifying, head, selected,
      (Token.KeyMaterial.family_verifying ready).symm.trans kind, ready, good⟩

/-- A payload that is read and whose parties are in order names the parties. -/
theorem namesParties_of_checked {d : Document} {claims : Token.BoundClaims}
    (payload : readPayload parts = .ok (d, claims))
    (parties : checkParties first d r.metadata.issuer r.preview.provider.clientId = .ok ()) :
    r.NamesParties parts :=
  ⟨d, (readPayload_eq_ok_iff.mp payload).1, checkParties_eq_ok_iff.mp parties⟩

/-- What is read of a payload that the policy admits is in time. -/
theorem inTime_of_admitted {expiry : ExpiryPolicy} {leeway : Duration} {d : Document}
    {claims : Token.BoundClaims} (payload : readPayload parts = .ok (d, claims))
    (time : expiry.admits leeway claims.expiry? = true) : InTime expiry leeway parts := by
  obtain ⟨body, wanted, -⟩ := readPayload_eq_ok_iff.mp payload
  exact ⟨d, claims.expiry?, body, (Token.BoundClaims.ofDocument?_eq_some_iff.mp wanted).1,
    ExpiryPolicy.admits_eq_true_iff.mp time⟩

/-! ## The stage of a failure -/

/-- The verdict is given up at one of the stages, for this reason, after the stages before it have
found what they ask for. -/
inductive Refused (s : Setting) (r : RoutedToken) : VerificationFailure → Prop
  | unsigned {failure : VerificationFailure}
      (refused : authenticate s.publicKeyCheck r.token r.keys = .error failure) :
      Refused s r failure
  | unread {parts : Compact} {failure : VerificationFailure}
      (signed : authenticate s.publicKeyCheck r.token r.keys = .ok parts)
      (refused : readPayload parts = .error failure) : Refused s r failure
  | foreign {parts : Compact} {d : Document} {claims : Token.BoundClaims}
      {failure : VerificationFailure}
      (signed : authenticate s.publicKeyCheck r.token r.keys = .ok parts)
      (payload : readPayload parts = .ok (d, claims))
      (refused : checkParties (s.firstSought r.index) d r.metadata.issuer
        r.preview.provider.clientId = .error failure) :
      Refused s r failure
  | late {parts : Compact} {d : Document} {claims : Token.BoundClaims}
      (signed : authenticate s.publicKeyCheck r.token r.keys = .ok parts)
      (payload : readPayload parts = .ok (d, claims))
      (parties : checkParties (s.firstSought r.index) d r.metadata.issuer
        r.preview.provider.clientId = .ok ())
      (refused : s.expiry.admits s.leeway claims.expiry? = false) : Refused s r .expired
  | unbound {parts : Compact} {d : Document} {claims : Token.BoundClaims} {cause : NonceError}
      (signed : authenticate s.publicKeyCheck r.token r.keys = .ok parts)
      (payload : readPayload parts = .ok (d, claims))
      (parties : checkParties (s.firstSought r.index) d r.metadata.issuer
        r.preview.provider.clientId = .ok ())
      (time : s.expiry.admits s.leeway claims.expiry? = true)
      (refused : Binder.verdict s.digest claims.nonce? s.fingerprint s.salt = .error cause) :
      Refused s r (.ofNonceError cause)

/-- A token is refused for a reason exactly if it gets as far as the stage that gives this reason,
and is refused there. -/
theorem verdict_eq_error_iff : verdict s r = .error failure ↔ Refused s r failure := by
  constructor
  · intro h
    cases trusted : trustedClaims s.publicKeyCheck (s.firstSought r.index) r with
    | error cause =>
      simp only [verdict, trusted] at h
      cases h
      rcases trustedClaims_eq_error_iff.mp trusted with
        unsigned | ⟨parts, signed, unread | ⟨d, claims, payload, foreign⟩⟩
      · exact .unsigned unsigned
      · exact .unread signed unread
      · exact .foreign signed payload foreign
    | ok claims =>
      obtain ⟨parts, d, signed, payload, parties⟩ := trustedClaims_eq_ok_iff.mp trusted
      cases time : s.expiry.admits s.leeway claims.expiry? with
      | false =>
        simp only [verdict, trusted, time] at h
        cases h
        exact .late signed payload parties time
      | true =>
        cases bound : Binder.verdict s.digest claims.nonce? s.fingerprint s.salt with
        | error cause =>
          simp only [verdict, trusted, time, bound] at h
          cases h
          exact .unbound signed payload parties time bound
        | ok _ =>
          simp only [verdict, trusted, time, bound] at h
          cases h
  · intro refused
    cases refused with
    | unsigned refused => simp only [verdict, trustedClaims, refused]
    | unread signed refused => simp only [verdict, trustedClaims, signed, refused]
    | foreign signed payload refused =>
      simp only [verdict, trustedClaims, signed, payload, refused]
    | late signed payload parties refused =>
      simp only [verdict, trustedClaims, signed, payload, parties, refused, Bool.not_false, if_true]
    | unbound signed payload parties time refused =>
      simp only [verdict, trustedClaims, signed, payload, parties, time, refused, Bool.not_true,
        Bool.false_eq_true, if_false]

/-- A failure that is not about key or signature is one of a token that is signed. -/
theorem Refused.signed (h : Refused s r failure) (behind : failure.BehindSignature) :
    ∃ parts, r.Signed s.publicKeyCheck parts := by
  cases h with
  | unsigned refused =>
    rcases eq_of_authenticate_eq_error refused with rfl | ⟨fault, rfl⟩
    · exact absurd rfl behind.1
    · exact absurd rfl (behind.2 fault)
  | unread signed _ => exact ⟨_, signed_iff.mpr signed⟩
  | foreign signed _ _ => exact ⟨_, signed_iff.mpr signed⟩
  | late signed _ _ _ => exact ⟨_, signed_iff.mpr signed⟩
  | unbound signed _ _ _ _ => exact ⟨_, signed_iff.mpr signed⟩

/-- A failure about the time or the nonce is one of a token that is signed and names the parties.
Whoever gets such an answer had a token of the provider, for this client. -/
theorem Refused.namesParties (h : Refused s r failure) (behind : failure.BehindParties) :
    ∃ parts, r.Signed s.publicKeyCheck parts ∧ r.NamesParties parts := by
  have early : failure ∉ [VerificationFailure.keyNotFound, .malformedClaims, .issuer, .audience] ∧
      ∀ fault, failure ≠ .signature fault := by
    rcases behind with rfl | rfl | rfl | rfl <;> exact ⟨by decide, nofun⟩
  obtain ⟨named, fault⟩ := early
  simp only [List.mem_cons, List.not_mem_nil, or_false, not_or] at named
  obtain ⟨key, malformed, issuer, audience⟩ := named
  cases h with
  | unsigned refused =>
    rcases eq_of_authenticate_eq_error refused with rfl | ⟨_, rfl⟩
    · exact absurd rfl key
    · exact absurd rfl (fault _)
  | unread _ refused =>
    rcases eq_of_readPayload_eq_error refused with rfl | ⟨_, rfl⟩
    · exact absurd rfl malformed
    · exact absurd rfl (fault _)
  | foreign _ _ refused =>
    rcases eq_of_checkParties_eq_error refused with rfl | rfl
    · exact absurd rfl issuer
    · exact absurd rfl audience
  | late signed payload parties _ =>
    exact ⟨_, signed_iff.mpr signed, namesParties_of_checked payload parties⟩
  | unbound signed payload parties _ _ =>
    exact ⟨_, signed_iff.mpr signed, namesParties_of_checked payload parties⟩

/-- A failure about the nonce is one of a token that has passed all the other stages. -/
theorem Refused.inTime (h : Refused s r failure) (behind : failure.OfNonce) :
    ∃ parts, r.Signed s.publicKeyCheck parts ∧ r.NamesParties parts ∧
      InTime s.expiry s.leeway parts := by
  cases h with
  | unsigned refused => exact absurd behind (authenticate_not_ofNonce refused)
  | unread _ refused => exact absurd behind (readPayload_not_ofNonce refused)
  | foreign _ _ refused => exact absurd behind (checkParties_not_ofNonce refused)
  | late _ _ _ _ => exact absurd behind nofun
  | unbound signed payload parties time _ =>
    exact ⟨_, signed_iff.mpr signed, namesParties_of_checked payload parties,
      inTime_of_admitted payload time⟩

/-! ## What does not depend on the setting -/

/-- Claims are trusted of a token that is signed and names the parties. -/
theorem signed_of_trustedClaims {claims : Token.BoundClaims}
    (trusted : trustedClaims publicKeyCheck first r = .ok claims) :
    ∃ parts, r.Signed publicKeyCheck parts ∧ r.NamesParties parts := by
  obtain ⟨parts, d, signed, payload, parties⟩ := trustedClaims_eq_ok_iff.mp trusted
  exact ⟨parts, signed_iff.mpr signed, namesParties_of_checked payload parties⟩

/-- A failure that is not about the time or the nonce is that of the claims, with any binder.
Neither the fingerprint nor the salt has a part in it. -/
theorem check_eq_error_iff {b : Binder} (early : ¬failure.BehindParties) :
    (check s b r).1 = .error failure ↔
      trustedClaims s.publicKeyCheck (s.firstSought r.index) r = .error failure := by
  cases trusted : trustedClaims s.publicKeyCheck (s.firstSought r.index) r with
  | error cause => simp only [check, trusted, Except.error.injEq]
  | ok claims =>
    simp only [reduceCtorEq, iff_false]
    intro refused
    simp only [check, trusted] at refused
    split at refused
    · cases refused
      exact early (.inl rfl)
    · split at refused
      · cases refused
      · cases refused
        exact early (.inr (VerificationFailure.ofNonce_ofNonceError _))

/-- A failure that is not about the time or the nonce is one of a token without trusted claims. -/
theorem Refused.distrusted (h : Refused s r failure) (early : ¬failure.BehindParties)
    (claims : Token.BoundClaims) :
    trustedClaims s.publicKeyCheck (s.firstSought r.index) r ≠ .ok claims := by
  intro trusted
  have verdict := verdict_eq_error_iff.mpr h
  simp only [RoutedToken.verdict, trusted] at verdict
  split at verdict
  · cases verdict
    exact early (.inl rfl)
  · split at verdict
    · cases verdict
    · cases verdict
      exact early (.inr (VerificationFailure.ofNonce_ofNonceError _))

/-- A token that names neither party is signed. -/
theorem NamesNeither.signed (h : r.NamesNeither publicKeyCheck) :
    ∃ parts, r.Signed publicKeyCheck parts := by
  obtain ⟨parts, -, -, signed, -⟩ := h
  exact ⟨parts, signed_iff.mpr signed⟩

/-- Without trusted claims, the verdict is the same in all settings, as long as they agree on what
is looked for first in a token that names neither party. -/
theorem verdict_eq_of_distrusted (same : s'.publicKeyCheck = s.publicKeyCheck)
    (order : r.NamesNeither s.publicKeyCheck → s'.firstSought r.index = s.firstSought r.index)
    (distrusted : ∀ claims, trustedClaims s.publicKeyCheck (s.firstSought r.index) r ≠ .ok claims) :
    r.verdict s' = r.verdict s := by
  cases trusted : trustedClaims s.publicKeyCheck (s.firstSought r.index) r with
  | ok claims => exact absurd trusted (distrusted claims)
  | error cause =>
    have trusted' := (trustedClaims_congr order).trans trusted
    simp only [verdict, same, trusted, trusted']

/-- An outcome names the failure that the verdict is. -/
theorem failure?_outcome_eq_some_iff {result : Except VerificationFailure Unit} :
    (r.outcome result).failure? = some failure ↔ result = .error failure := by
  cases result with
  | ok _ => simp only [outcome, reduceCtorEq]
  | error cause => simp only [outcome, Option.some.injEq, Except.error.injEq]

end RoutedToken

namespace Verification.Engine

open Authorization.Simulated

variable {e e' : Engine} {b b' : Binder} {q q' : Request} {r : RoutedToken} {o o' : Outcome}

/-- A pass comes to a report, and this is its outcome for the routed token. -/
def Reported (e : Engine) (b : Binder) (q : Request) (r : RoutedToken) (o : Outcome) : Prop :=
  ∃ (report : Report) (bundle : Bundle) (i : Nat), (e.run b q).result = .ok report ∧
    Bundle.parse q.wire = .ok bundle ∧ (e.routedTokens bundle.tokens)[i]? = some r ∧
    report.outcomes[i]? = some o

/-- What is reported for a routed token is its verdict. The outcome adds the preview, which is in it
whether the token verified or not. -/
theorem reported_iff (reach : b.Reachable e.digest) :
    e.Reported b q r o ↔
      ∃ bundle f, Bundle.parse q.wire = .ok bundle ∧ e.localFingerprint q.peer q.role = .ok f ∧
        r ∈ e.routedTokens bundle.tokens ∧
        o = r.outcome (r.verdict (e.setting q bundle.salt f)) := by
  constructor
  · rintro ⟨report, bundle, i, came, parsed, at_i, here⟩
    obtain ⟨bundle', f, r', parsed', print, at_i', rfl⟩ := outcome_of_run reach came here
    obtain rfl : bundle = bundle' := Except.ok.inj (parsed.symm.trans parsed')
    obtain rfl : r = r' := Option.some.inj (at_i.symm.trans at_i')
    exact ⟨bundle, f, parsed, print, List.mem_of_getElem? at_i, rfl⟩
  · rintro ⟨bundle, f, parsed, print, routed, rfl⟩
    obtain ⟨i, at_i⟩ := List.mem_iff_getElem?.mp routed
    have token := (mem_routedTokens_iff.mp routed).token
    have nonempty : bundle.tokens ≠ [] := List.ne_nil_of_mem (List.mem_of_getElem? token)
    refine ⟨_, bundle, i, run_result_of_localFingerprint reach parsed nonempty print, parsed, at_i,
      ?_⟩
    simp only [verdicts, List.getElem?_map, at_i, Option.map_some]

/-- The outcome that is reported for a routed token. A failure that is about something else than the
key and the signature is reported only of a token that is signed; one about the time or the nonce,
only if the token also names the parties; one about the nonce, only if the policy has passed as
well.

So let two passes report the same routed token, over whatever fingerprints, salts, expiry policies
and leeways. If the token is not signed, both report the same. They also do if it is signed and does
not name the parties, or if one of the passes reports a failure that is not about the time or the
nonce; where the token names neither party, this is so for checks that look for the same claim
first, because else each names the claim that it missed. -/
theorem run_failures_staged (reach : b.Reachable e.digest) (reported : e.Reported b q r o) :
    (∀ failure, o.failure? = some failure →
      (failure.BehindSignature → ∃ parts, r.Signed e.publicKeyCheck parts) ∧
      (failure.BehindParties →
        ∃ parts, r.Signed e.publicKeyCheck parts ∧ r.NamesParties parts) ∧
      (failure.OfNonce →
        ∃ parts, r.Signed e.publicKeyCheck parts ∧ r.NamesParties parts ∧
          RoutedToken.InTime q.expiry e.leeway parts)) ∧
      ∀ (e' : Engine) (b' : Binder) (q' : Request) (o' : Outcome),
        e'.publicKeyCheck = e.publicKeyCheck → b'.Reachable e'.digest → e'.Reported b' q' r o' →
          ((∀ parts, ¬r.Signed e.publicKeyCheck parts) → o' = o) ∧
          ((r.NamesNeither e.publicKeyCheck → e'.firstSought r.index = e.firstSought r.index) →
            ((∀ parts, r.Signed e.publicKeyCheck parts → ¬r.NamesParties parts) → o' = o) ∧
            ∀ failure, o.failure? = some failure → ¬failure.BehindParties → o' = o) := by
  obtain ⟨bundle, f, -, -, -, rfl⟩ := (reported_iff reach).mp reported
  constructor
  · intro failure named
    have refused : RoutedToken.Refused (e.setting q bundle.salt f) r failure :=
      RoutedToken.verdict_eq_error_iff.mp (RoutedToken.failure?_outcome_eq_some_iff.mp named)
    exact ⟨refused.signed, refused.namesParties, refused.inTime⟩
  · intro e' b' q' o' same reach' reported'
    obtain ⟨bundle', f', -, -, -, rfl⟩ := (reported_iff reach').mp reported'
    -- Where the claims are not trusted, the two settings are never looked at.
    have blind (order : r.NamesNeither e.publicKeyCheck →
          e'.firstSought r.index = e.firstSought r.index)
        (distrusted : ∀ claims, RoutedToken.trustedClaims e.publicKeyCheck
          (e.firstSought r.index) r ≠ .ok claims) :
        r.outcome (r.verdict (e'.setting q' bundle'.salt f')) =
          r.outcome (r.verdict (e.setting q bundle.salt f)) :=
      congrArg r.outcome (RoutedToken.verdict_eq_of_distrusted same order distrusted)
    refine ⟨?_, fun order => ⟨?_, ?_⟩⟩
    · intro unsigned
      refine blind ?_ ?_
      · intro neither
        obtain ⟨parts, signed⟩ := neither.signed
        exact absurd signed (unsigned parts)
      · intro claims trusted
        obtain ⟨parts, signed, -⟩ := RoutedToken.signed_of_trustedClaims trusted
        exact unsigned parts signed
    · intro foreign
      refine blind order ?_
      intro claims trusted
      obtain ⟨parts, signed, parties⟩ := RoutedToken.signed_of_trustedClaims trusted
      exact foreign parts signed parties
    · intro failure named early
      have refused : RoutedToken.Refused (e.setting q bundle.salt f) r failure :=
        RoutedToken.verdict_eq_error_iff.mp (RoutedToken.failure?_outcome_eq_some_iff.mp named)
      exact blind order (refused.distrusted early)

/-- A resolver that finds the keys of Beta behind every document. -/
def keysOfBeta : Resolver :=
  { resolverOf Conversation.alphaAndBeta with
    keys := fun _ _ => .ok Conversation.alphaAndBeta[1].issuer.keySet }

/-- An issued token that was routed with keys of others is not signed. -/
theorem not_signed_of_select {m : Registration} {now : UInt64} {nonce : String} {i : Nat}
    {keys : Token.KeySet} (unknown : keys.select (some m.issuer.keyId) = none)
    (publicKeyCheck : Token.PublicKeyCheck) (parts : Compact) :
    ¬RoutedToken.Signed publicKeyCheck
      { m.routed i (issuedToken m.entry now m.clientId nonce) with keys := keys } parts := by
  rintro ⟨cut, header, key, -, head, selected, -⟩
  obtain rfl := Except.ok.inj ((Issuer.split_sign _ _).symm.trans cut)
  obtain rfl := Except.ok.inj ((Issuer.readHeader_parts _ _).symm.trans head)
  cases unknown.symm.trans selected

/-- The token of Alpha does not name a key of Beta, so it is not signed. What is reported of it is
the same with two digests, two salts, two policies and two leeways. -/
theorem run_failures_staged_keysOfBeta :
    let alpha : Registration := Conversation.alphaAndBeta[0]
    let n : CompoundNonce := ⟨⟨List.replicate 32 1, List.length_replicate⟩, .zero⟩
    let token := issuedToken alpha.entry 1700000000 alpha.clientId n.text
    let r : RoutedToken :=
      { alpha.routed 0 token with keys := Conversation.alphaAndBeta[1].issuer.keySet }
    let e (H : Digest) (leeway : Duration) : Engine :=
      let v := Conversation.aliceToBob H
      { v.engine v.recipientView .none leeway with resolver := keysOfBeta }
    let q (salt : Salt) (expiry : ExpiryPolicy) : Request :=
      ⟨Bundle.toWire ⟨salt, [token]⟩, ⟨"alice"⟩, .verifier, expiry⟩
    ∃ o, (e .sha512 (.ofSeconds 60)).Reported {} (q ⟨[1]⟩ .ignore) r o ∧
      ∀ o', (e .zeros (.ofSeconds 5)).Reported {} (q ⟨[2]⟩ (.at 1800000000)) r o' → o' = o := by
  intro alpha n token r e q
  have clock : FitsClock 1700000000 := by decide
  have routed : ∀ H leeway, r ∈ (e H leeway).routedTokens [token] := by
    intro H leeway
    have member : alpha ∈ Conversation.alphaAndBeta := List.mem_cons_self
    have family : Family Conversation.alphaAndBeta := (Conversation.aliceToBob H).family
    exact mem_routedTokens_iff.mpr
      ⟨rfl, preview_issued family clock member n.text, document_resolverOf family member 0, rfl⟩
  have parsed : ∀ salt, Bundle.parse (Bundle.toWire ⟨salt, [token]⟩) = .ok ⟨salt, [token]⟩ :=
    fun salt => Bundle.parse_toWire (List.forall_mem_singleton.mpr (carried_issuedToken _ _ _ _))
  have print : (e .sha512 (.ofSeconds 60)).localFingerprint ⟨"alice"⟩ .verifier =
      .ok (Conversation.aliceToBob .sha512).fingerprint :=
    (Conversation.aliceToBob .sha512).localFingerprint_recipient .none (.ofSeconds 60)
  have unsigned : ∀ parts, ¬r.Signed .none parts := not_signed_of_select (by decide) .none
  have reported : (e .sha512 (.ofSeconds 60)).Reported {} (q ⟨[1]⟩ .ignore) r _ :=
    (reported_iff .empty).mpr ⟨_, _, parsed ⟨[1]⟩, print, routed _ _, rfl⟩
  refine ⟨_, reported, ?_⟩
  intro o' reported'
  have same := (run_failures_staged .empty reported).2 (e .zeros (.ofSeconds 5)) {}
    (q ⟨[2]⟩ (.at 1800000000)) o' rfl .empty reported'
  exact same.1 unsigned

end Verification.Engine

end TokenBinding
