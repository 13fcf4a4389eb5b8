import TokenBinding.Proofs.Nonce.Separation
import TokenBinding.Proofs.Verification.Verified

/-!
# A token is bound to one fingerprint and one salt

A token that verifies carries a nonce whose hash is the stretched fingerprint of the pass. The nonce
is read from the text of the token, so a token that verifies twice carries one nonce both times,
and the two passes stretched to one hash. What that says of their fingerprints and salts is
`stretch_inj_or_collide`.

The passes may have nothing in common but the digest: bundles, peers, roles, registries, resolvers,
keys and what their binders hold are all their own.

What it does not establish. Under the same fingerprint and the same salt a token verifies as often
as it is sent: a pass keeps no record of the nonces that it has seen.

Main statement: `verified_twice_same_binding_or_collide`. A token that is replayed under another
salt or another fingerprint does not verify, unless two of the messages that were hashed collide.
-/

namespace TokenBinding

open Authorization.Simulated

/-- Evidence for one token, found in two passes, has one nonce in it. -/
theorem RoutedToken.Evidence.Supports.nonce_eq {v₁ v₂ : RoutedToken.Evidence}
    {s₁ s₂ : RoutedToken.Setting} {r₁ r₂ : RoutedToken} (h₁ : v₁.Supports s₁ r₁)
    (h₂ : v₂.Supports s₂ r₂) (same : r₁.token = r₂.token) : v₁.nonce = v₂.nonce := by
  have parts : v₁.parts = v₂.parts := Except.ok.inj (h₁.cut.symm.trans (same ▸ h₂.cut))
  have payload : v₁.payload = v₂.payload := Except.ok.inj (h₁.body.symm.trans (parts ▸ h₂.body))
  have claim : v₁.claim = v₂.claim :=
    Option.some.inj (Option.some.inj (h₁.carried.symm.trans (payload ▸ h₂.carried)))
  exact Except.ok.inj (h₁.spelled.symm.trans (claim ▸ h₂.spelled))

namespace Verification.Engine

/-- A pass reports the token as verified, with this fingerprint on its own side and this salt in the
bundle. -/
def ReportsVerified (e : Engine) (b : Binder) (q : Request) (token : String) (f : Fingerprint)
    (salt : Salt) : Prop :=
  ∃ (report : Report) (bundle : Bundle) (i : Nat) (r : RoutedToken) (o : Outcome),
    (e.run b q).result = .ok report ∧ Bundle.parse q.wire = .ok bundle ∧ bundle.salt = salt ∧
    e.localFingerprint q.peer q.role = .ok f ∧ (e.routedTokens bundle.tokens)[i]? = some r ∧
    r.token = token ∧ report.outcomes[i]? = some o ∧ o.verified = true

variable {e : Engine} {b : Binder} {q : Request} {token : String} {f : Fingerprint} {salt : Salt}

/-- Behind a verified token there is evidence, under the fingerprint and the salt of the pass. The
nonce in it is read from the text of the token alone. -/
theorem ReportsVerified.evidence (h : e.ReportsVerified b q token f salt)
    (hb : b.Reachable e.digest) :
    ∃ r v, r.token = token ∧ RoutedToken.Evidence.Supports v (e.setting q salt f) r := by
  obtain ⟨report, bundle, i, r, o, result, parsed, rfl, print, at_i, token_eq, ho, verified⟩ := h
  obtain ⟨bundle', f', r', parsed', print', at_i', rfl⟩ := outcome_of_run hb result ho
  obtain rfl : bundle = bundle' := Except.ok.inj (parsed.symm.trans parsed')
  obtain rfl : f = f' := Except.ok.inj (print.symm.trans print')
  obtain rfl : r = r' := Option.some.inj (at_i.symm.trans at_i')
  have routed : e.Routed bundle.tokens r :=
    mem_routedTokens_iff.mp (List.mem_of_getElem? at_i)
  have good : r.verdict (e.setting q bundle.salt f) = .ok () :=
    (RoutedToken.outcome_verified_iff r _).2.mp verified
  obtain ⟨v, supports⟩ := (RoutedToken.verdict_eq_ok_iff routed.preview).mp good
  exact ⟨r, v, token_eq, supports⟩

/-- A token that is reported as verified by two passes is bound to one fingerprint and one salt, or
a message hashed for the first binding collides with one hashed for the second. The passes have
nothing in common but the digest, so the two verdicts may be of different engines at different
times. -/
theorem verified_twice_same_binding_or_collide {H : Digest} {e₁ e₂ : Engine} {b₁ b₂ : Binder}
    {q₁ q₂ : Request} {token : String} {f₁ f₂ : Fingerprint} {salt₁ salt₂ : Salt}
    (digest₁ : e₁.digest = H) (digest₂ : e₂.digest = H) (reach₁ : b₁.Reachable H)
    (reach₂ : b₂.Reachable H) (h₁ : e₁.ReportsVerified b₁ q₁ token f₁ salt₁)
    (h₂ : e₂.ReportsVerified b₂ q₂ token f₂ salt₂) :
    (f₁ = f₂ ∧ salt₁ = salt₂) ∨
      H.CollideAmong (stretchMessages H f₁.bytes salt₁.bytes)
        (stretchMessages H f₂.bytes salt₂.bytes) := by
  subst digest₁
  obtain ⟨r₁, v₁, token₁, supports₁⟩ := h₁.evidence reach₁
  obtain ⟨r₂, v₂, token₂, supports₂⟩ := h₂.evidence (digest₂ ▸ reach₂)
  have nonce : v₁.nonce = v₂.nonce := supports₁.nonce_eq supports₂ (token₁.trans token₂.symm)
  have hashes : stretch e₁.digest f₁.bytes salt₁.bytes =
      stretch e₁.digest f₂.bytes salt₂.bytes := by
    calc
      stretch e₁.digest f₁.bytes salt₁.bytes = v₁.nonce.hash := supports₁.bound.symm
      _ = v₂.nonce.hash := congrArg CompoundNonce.hash nonce
      _ = stretch e₂.digest f₂.bytes salt₂.bytes := supports₂.bound
      _ = stretch e₁.digest f₂.bytes salt₂.bytes := by rw [digest₂]
  rcases stretch_inj_or_collide hashes with ⟨prints, salts⟩ | collide
  · left
    cases f₁; cases f₂; cases salt₁; cases salt₂
    cases prints; cases salts
    exact ⟨rfl, rfl⟩
  · exact .inr collide

/-- A pass over the one token of a member reports it as verified, if its nonce is bound. -/
theorem reportsVerified_issued (v : Conversation) {now : UInt64} (clock : FitsClock now)
    (publicKeyCheck : Token.PublicKeyCheck) (leeway : Duration) (hb : b.Reachable v.digest)
    {r : Registration} (member : r ∈ v.members) {n : CompoundNonce}
    (bound : n.hash = stretch v.digest v.fingerprint.bytes salt.bytes) :
    (v.engine v.recipientView publicKeyCheck leeway).ReportsVerified b
      ⟨Bundle.toWire ⟨salt, [issuedToken r.entry now r.clientId n.text]⟩, v.producerRef, .verifier,
        .ignore⟩
      (issuedToken r.entry now r.clientId n.text) v.fingerprint salt := by
  let e := v.engine v.recipientView publicKeyCheck leeway
  let token := issuedToken r.entry now r.clientId n.text
  let q : Request := ⟨Bundle.toWire ⟨salt, [token]⟩, v.producerRef, .verifier, .ignore⟩
  have among : ∀ r' ∈ [r], r' ∈ v.members := List.forall_mem_singleton.mpr member
  have bounds : ∀ n' ∈ [n], n'.hash = stretch v.digest v.fingerprint.bytes salt.bytes :=
    List.forall_mem_singleton.mpr bound
  have parsed : Bundle.parse (Bundle.toWire ⟨salt, [token]⟩) = .ok ⟨salt, [token]⟩ :=
    Bundle.parse_toWire (List.forall_mem_singleton.mpr (carried_issuedToken _ _ _ _))
  have knows : e.Knows v.members := v.engine_knows v.recipientView publicKeyCheck leeway
  have routed : e.routedTokens [token] = [r.routed 0 token] :=
    routedTokens_issued knows v.family clock member n.text
  have print := v.localFingerprint_recipient publicKeyCheck leeway
  have wire : q.wire = Bundle.toWire ⟨salt, Session.honestTokens now [r] [n]⟩ := rfl
  have result : (e.run b q).result = .ok { outcomes := [r].map Registration.outcome } :=
    run_honestTokens knows v.family clock hb among wire rfl print bounds rfl
  have first : (e.routedTokens [token])[0]? = some (r.routed 0 token) := by
    rw [routed]
    rfl
  exact ⟨_, _, 0, _, _, result, parsed, rfl, print, first, rfl, rfl, rfl⟩

/-- Under a digest of zeros one token verifies with two salts. There a message hashed for the one
salt collides with a message hashed for the other. -/
theorem verified_twice_same_binding_or_collide_zeros :
    let v := Conversation.aliceToBob .zeros
    let n : CompoundNonce := ⟨⟨List.replicate 32 1, List.length_replicate⟩, .zero⟩
    let r : Registration := Conversation.alphaAndBeta[0]
    let token := issuedToken r.entry 1700000000 r.clientId n.text
    let e := v.engine v.recipientView .none (.ofSeconds 60)
    let q (salt : Salt) : Request := ⟨Bundle.toWire ⟨salt, [token]⟩, ⟨"alice"⟩, .verifier, .ignore⟩
    e.ReportsVerified {} (q ⟨[1]⟩) token v.fingerprint ⟨[1]⟩ ∧
      e.ReportsVerified {} (q ⟨[2]⟩) token v.fingerprint ⟨[2]⟩ ∧
      Digest.zeros.CollideAmong (stretchMessages .zeros v.fingerprint.bytes [1])
        (stretchMessages .zeros v.fingerprint.bytes [2]) := by
  intro v n r token e q
  have clock : FitsClock 1700000000 := by decide
  have verified : ∀ salt : Salt, e.ReportsVerified {} (q salt) token v.fingerprint salt := by
    intro salt
    have member : r ∈ v.members := List.mem_cons_self
    exact reportsVerified_issued v clock .none (.ofSeconds 60) .empty member
      (stretch_zeros v.fingerprint.bytes salt.bytes).symm
  have bound := verified_twice_same_binding_or_collide rfl rfl .empty .empty (verified ⟨[1]⟩)
    (verified ⟨[2]⟩)
  rcases bound with ⟨-, salts⟩ | collide
  · exact absurd salts (by decide)
  · exact ⟨verified ⟨[1]⟩, verified ⟨[2]⟩, collide⟩

end Verification.Engine

end TokenBinding
