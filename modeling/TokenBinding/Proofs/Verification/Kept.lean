import TokenBinding.Proofs.Conversation

/-!
# What a ceremony keeps passes the check of the nonce

The producer reads the nonce claim of a token without trust, and keeps the token if the claim is the
text that it sent. The verifier reads the claim once more, of a token whose signature it has
checked, and compares the hash in it with one of its own. Both read one payload, and a claim that is
trusted is the one that was read without trust (`unverifiedNonce_of_trustedClaims`); and the text
that the producer sent has the one reading that it was made from. So over one fingerprint and salt
the two never disagree: the check of a kept token comes to what its stages before the nonce come to
(`screen`).

What it does not establish. A kept token may still be refused for its signature, its parties or its
time, which the producer does not look at.

Main statement: `Engine.kept_passes_nonce_check`.
-/

namespace TokenBinding

/-- The failure is about the nonce. -/
def VerificationFailure.OfNonce (failure : VerificationFailure) : Prop :=
  failure = .missingNonce ∨ failure = .malformedNonce ∨ failure = .nonceMismatch

instance (failure : VerificationFailure) : Decidable failure.OfNonce :=
  inferInstanceAs
    (Decidable (failure = .missingNonce ∨ failure = .malformedNonce ∨ failure = .nonceMismatch))

/-! ## The producer -/

namespace Session

variable {σ : Type} {client : Authorization.Client σ}

/-- A token is kept as it is, and only if its nonce claim is the text that was sent. -/
theorem accept_eq_ok_iff {pending : CompoundNonce} {token kept : String} :
    accept pending token = .ok kept ↔
      kept = token ∧ Token.unverifiedNonce token = .ok (some pending.text) := by
  unfold accept
  split
  · next read => simp only [read, reduceCtorEq, and_false]
  · next read => simp only [read, reduceCtorEq, Except.ok.injEq, and_false]
  · next claim read =>
    simp only [CompoundNonce.isEchoedBy, beq_iff_eq, read, Except.ok.injEq, Option.some.injEq]
    split
    · next echo => simp only [Except.ok.injEq, echo, and_true, eq_comm]
    · next other => simp only [reduceCtorEq, Ne.symm other, and_false]

/-- What a ceremony gives has the nonce claim that the ceremony sent. The client may be any, and so
may the rest of the token. -/
theorem unverifiedNonce_of_kept {request : AuthorizationRequest} {pending : CompoundNonce} {c : σ}
    {token : String} (kept : (ceremony client request pending c).result? = some (.ok token)) :
    Token.unverifiedNonce token = .ok (some pending.text) := by
  unfold ceremony at kept
  split at kept
  · cases kept
  · cases kept
  · dsimp only at kept
    split at kept
    · cases kept
    · cases kept
    · next returned exchanged =>
      obtain ⟨rfl, echoed⟩ := accept_eq_ok_iff.mp (Option.some.inj kept)
      exact echoed

end Session

/-! ## The verifier -/

namespace RoutedToken

variable {publicKeyCheck : Token.PublicKeyCheck} {first : RequiredClaim} {s : Setting}
  {r : RoutedToken}

/-- A nonce claim that is trusted is the one that is read without trust. -/
theorem unverifiedNonce_of_trustedClaims {claims : Token.BoundClaims}
    (trusted : trustedClaims publicKeyCheck first r = .ok claims) :
    Token.unverifiedNonce r.token = .ok claims.nonce? := by
  obtain ⟨parts, d, signed, payload, -⟩ := trustedClaims_eq_ok_iff.mp trusted
  obtain ⟨cut, header, -, -, head, -⟩ := authenticate_eq_ok_iff.mp signed
  obtain ⟨body, wanted, registered⟩ := readPayload_eq_ok_iff.mp payload
  have carried : d.textMember? "nonce" = some claims.nonce? :=
    (Token.BoundClaims.ofDocument?_eq_some_iff.mp wanted).2
  exact Token.unverifiedNonce_eq_ok_iff.mpr
    (Token.readUnverified_eq_ok_iff.mpr ⟨parts, header, d, cut, head, body, carried, registered⟩)

theorem authenticate_not_ofNonce {token : String} {keys : Token.KeySet}
    {failure : VerificationFailure}
    (refused : authenticate publicKeyCheck token keys = .error failure) : ¬failure.OfNonce := by
  rcases eq_of_authenticate_eq_error refused with rfl | ⟨fault, rfl⟩ <;> exact nofun

/-- The reading of a payload never finds fault with a nonce. One that is no text is a malformed
claim like any other. -/
theorem readPayload_not_ofNonce {parts : Token.Compact} {failure : VerificationFailure}
    (refused : readPayload parts = .error failure) : ¬failure.OfNonce := by
  rcases eq_of_readPayload_eq_error refused with rfl | ⟨cause, rfl⟩ <;> exact nofun

theorem checkParties_not_ofNonce {d : Json.Document} {issuer clientId : String}
    {failure : VerificationFailure}
    (refused : checkParties first d issuer clientId = .error failure) : ¬failure.OfNonce := by
  rcases eq_of_checkParties_eq_error refused with rfl | rfl <;> exact nofun

/-- The claims of a token are not refused for the nonce. -/
theorem trustedClaims_not_ofNonce {failure : VerificationFailure}
    (refused : trustedClaims publicKeyCheck first r = .error failure) : ¬failure.OfNonce := by
  unfold trustedClaims at refused
  split at refused
  · next cause unsigned =>
    cases refused
    exact authenticate_not_ofNonce unsigned
  · split at refused
    · next cause unread =>
      cases refused
      exact readPayload_not_ofNonce unread
    · split at refused
      · next cause others =>
        cases refused
        exact checkParties_not_ofNonce others
      · cases refused

/-- What the stages before the nonce say of a token. -/
def screen (s : Setting) (r : RoutedToken) : Except VerificationFailure Unit :=
  match trustedClaims s.publicKeyCheck (s.firstSought r.index) r with
  | .error e => .error e
  | .ok claims =>
    if s.expiry.admits s.leeway claims.expiry? then .ok () else .error .expired

/-- What comes before the nonce never finds fault with it. -/
theorem screen_not_ofNonce {failure : VerificationFailure}
    (refused : screen s r = .error failure) : ¬failure.OfNonce := by
  unfold screen at refused
  split at refused
  · next cause distrusted =>
    cases refused
    exact trustedClaims_not_ofNonce distrusted
  · split at refused
    · cases refused
    · cases refused
      exact nofun

/-- The stage of the nonce says nothing on a token that carries a text of a compound nonce which is
bound to the fingerprint and the salt. -/
theorem verdict_eq_screen {nonce : CompoundNonce}
    (carried : Token.unverifiedNonce r.token = .ok (some nonce.text))
    (bound : nonce.hash = stretch s.digest s.fingerprint.bytes s.salt.bytes) :
    verdict s r = screen s r := by
  cases trusted : trustedClaims s.publicKeyCheck (s.firstSought r.index) r with
  | error cause => simp only [verdict, screen, trusted]
  | ok claims =>
    have claim : claims.nonce? = some nonce.text :=
      Except.ok.inj ((unverifiedNonce_of_trustedClaims trusted).symm.trans carried)
    have good : Binder.verdict s.digest claims.nonce? s.fingerprint s.salt = .ok () :=
      Binder.verdict_eq_ok_iff.mpr
        ⟨nonce.text, nonce, claim, CompoundNonce.parse_text nonce, bound⟩
    simp only [verdict, screen, trusted, good]
    cases s.expiry.admits s.leeway claims.expiry? <;> rfl

end RoutedToken

/-! ## Both -/

namespace Verification.Engine

open Authorization.Simulated

variable {σ : Type} {e : Engine} {b b' : Binder} {client : Authorization.Client σ}

/-- The nonce that a binder gives out is bound, and the verdict on a token that was kept for it does
not depend on the stage of the nonce. -/
theorem verdict_of_kept (reach : b.Reachable e.digest) {t : TrueNonce} {f : Fingerprint}
    {salt : Salt} {request : AuthorizationRequest} {c : σ} {token : String}
    (kept : (Session.ceremony client request (b.bind e.digest t f salt).1 c).result? =
      some (.ok token)) (q : Request) {r : RoutedToken} (same : r.token = token) :
    r.verdict (e.setting q salt f) = r.screen (e.setting q salt f) := by
  have echoed := Session.unverifiedNonce_of_kept kept
  rw [Binder.bind_fst reach] at echoed
  rw [← same] at echoed
  exact RoutedToken.verdict_eq_screen echoed rfl

/-- A token that some ceremony kept, with any client, for a nonce that was made of this fingerprint
and salt. Whatever keys and metadata it is routed with, the check over that fingerprint and salt
comes to what its stages before the nonce come to, so it is never refused for the nonce; and in the
report of a pass whose local fingerprint and bundle have these, no outcome of that token is. -/
theorem kept_passes_nonce_check (reach : b.Reachable e.digest) (reach' : b'.Reachable e.digest)
    (t : TrueNonce) (f : Fingerprint) (salt : Salt) (request : AuthorizationRequest) (c : σ)
    {token : String}
    (kept : (Session.ceremony client request (b.bind e.digest t f salt).1 c).result? =
      some (.ok token)) (q : Request) :
    (∀ r : RoutedToken, r.token = token →
      (RoutedToken.check (e.setting q salt f) b' r).1 = r.screen (e.setting q salt f) ∧
        ∀ failure, (RoutedToken.check (e.setting q salt f) b' r).1 = .error failure →
          ¬failure.OfNonce) ∧
      ∀ (tokens : List String) (report : Report), Bundle.parse q.wire = .ok ⟨salt, tokens⟩ →
        e.localFingerprint q.peer q.role = .ok f → (e.run b' q).result = .ok report →
          ∀ (i : Nat) (r : RoutedToken), (e.routedTokens tokens)[i]? = some r → r.token = token →
            ∃ o, report.outcomes[i]? = some o ∧
              ∀ failure, o.failure? = some failure → ¬failure.OfNonce := by
  constructor
  · intro r same
    have checked : (RoutedToken.check (e.setting q salt f) b' r).1 =
        r.screen (e.setting q salt f) :=
      (RoutedToken.check_eq_verdict reach' r).1.trans (verdict_of_kept reach kept q same)
    refine ⟨checked, ?_⟩
    intro failure refused
    exact RoutedToken.screen_not_ofNonce (checked.symm.trans refused)
  · intro tokens report parsed print came i r at_i same
    -- In the report the token stands at its place among those that were routed.
    have routed : e.Routed tokens r := mem_routedTokens_iff.mp (List.mem_of_getElem? at_i)
    have nonempty : tokens ≠ [] := List.ne_nil_of_mem (List.mem_of_getElem? routed.token)
    have verdicts := run_result_of_localFingerprint reach' parsed nonempty print
    obtain rfl : e.verdicts q ⟨salt, tokens⟩ f = report :=
      Except.ok.inj (verdicts.symm.trans came)
    refine ⟨r.outcome (r.verdict (e.setting q salt f)), ?_, ?_⟩
    · simp only [Engine.verdicts, List.getElem?_map, at_i, Option.map_some]
    · rw [verdict_of_kept reach kept q same]
      intro failure named
      cases screened : r.screen (e.setting q salt f) with
      | ok _ => simp only [RoutedToken.outcome, screened, reduceCtorEq] at named
      | error cause =>
        simp only [RoutedToken.outcome, screened, Option.some.injEq] at named
        exact named ▸ RoutedToken.screen_not_ofNonce screened

/-- The token that Alpha issues for a nonce of Alice's session is kept. Bob does not refuse it for
the nonce, at whatever time he checks it and with whatever keys; and the one outcome of his pass
over a bundle of it is not refused for the nonce either. -/
theorem kept_passes_nonce_check_aliceToBob :
    let v := Conversation.aliceToBob .sha512
    let e := v.engine v.recipientView .none (.ofSeconds 60)
    let alpha : Registration := Conversation.alphaAndBeta[0]
    let salt : Salt := ⟨List.replicate 32 9⟩
    let trueNonce (i : Nat) : TrueNonce := ⟨Bytes.bigEndian 32 i, Bytes.length_bigEndian 32 i⟩
    let draws : Draws := ⟨fun i => toString i, trueNonce⟩
    let pending := (({} : Binder).bind e.digest (trueNonce 1) v.fingerprint salt).1
    ∃ token,
      (Session.ceremony (Authorization.Simulated.client draws 1700000000)
        (.ofNonce alpha.provider pending.text "state") pending
        (.ofRegistrations Conversation.alphaAndBeta)).result? = some (.ok token) ∧
      (∀ (expiry : ExpiryPolicy) (r : RoutedToken), r.token = token →
        ∀ failure, (RoutedToken.check
          (e.setting ⟨"", ⟨"alice"⟩, .verifier, expiry⟩ salt v.fingerprint) {} r).1 =
            .error failure → ¬failure.OfNonce) ∧
      ∃ report o,
        (e.run {} ⟨Bundle.toWire ⟨salt, [token]⟩, ⟨"alice"⟩, .verifier, .ignore⟩).result =
          .ok report ∧
        report.outcomes[0]? = some o ∧ ∀ failure, o.failure? = some failure → ¬failure.OfNonce := by
  intro v e alpha salt trueNonce draws pending
  have clock : FitsClock 1700000000 := by decide
  have member : alpha ∈ Conversation.alphaAndBeta := List.mem_cons_self
  have reach : ({} : Binder).Reachable e.digest := .empty
  obtain ⟨calls, c', ended, -⟩ := Session.ceremony_honest draws clock
    (serves_ofRegistrations v.family alpha member) pending "state"
  have kept := congrArg Session.CeremonyRun.result? ended
  refine ⟨_, kept, ?_, ?_⟩
  · intro expiry r same
    exact ((kept_passes_nonce_check reach reach (trueNonce 1) v.fingerprint salt _ _ kept
      ⟨"", ⟨"alice"⟩, .verifier, expiry⟩).1 r same).2
  · let token := issuedToken alpha.entry 1700000000 alpha.clientId pending.text
    let q : Request := ⟨Bundle.toWire ⟨salt, [token]⟩, ⟨"alice"⟩, .verifier, .ignore⟩
    have parsed : Bundle.parse q.wire = .ok ⟨salt, [token]⟩ :=
      Bundle.parse_toWire (List.forall_mem_singleton.mpr (carried_issuedToken _ _ _ _))
    have print : e.localFingerprint q.peer q.role = .ok v.fingerprint :=
      v.localFingerprint_recipient .none (.ofSeconds 60)
    have came := run_result_of_localFingerprint reach parsed (List.cons_ne_nil token []) print
    have routed : e.routedTokens [token] = [alpha.routed 0 token] :=
      routedTokens_issued (v.engine_knows _ _ _) v.family clock member pending.text
    have at_0 : (e.routedTokens [token])[0]? = some (alpha.routed 0 token) := by
      rw [routed]
      rfl
    obtain ⟨o, reported, passes⟩ := (kept_passes_nonce_check reach reach (trueNonce 1)
      v.fingerprint salt _ _ kept q).2 [token] _ parsed print came 0 _ at_0 rfl
    exact ⟨_, o, came, reported, passes⟩

end Verification.Engine

end TokenBinding
