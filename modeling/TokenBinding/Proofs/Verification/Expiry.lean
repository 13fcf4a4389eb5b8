import TokenBinding.Proofs.Verification.NamesNeither
import TokenBinding.Proofs.Verification.Verified

/-!
# What the time changes in a report

The expiry policy and the leeway come into play in one place, behind everything that a token is
trusted for and before its nonce. So of two passes that differ in these, both route the same tokens
and list them in the same order; and of the tokens that verify without regard to the time, those
verify at a time that last until then (`LastsUntil`). The sum of expiry and leeway is that of
natural numbers, so nothing is wrapped around or cut off in the statement.

The passes that are compared need not look for the required claims in one order: a token that
verifies, or fails for its expiry only, has both claims.

What it does not establish. Where a token fails for something else, the two passes give it the same
failure only if they meet with one order. Which time a pass is told, and whether anybody's clock is
right, is not looked into.

Main statement: `run_expires_exactly`.
-/

namespace TokenBinding

open Json (Document)

namespace RoutedToken

variable {publicKeyCheck : Token.PublicKeyCheck} {first : RequiredClaim} {s : Setting}
  {r : RoutedToken}

/-- The token has an expiry claim, and this is its value. -/
def ExpiresAt (r : RoutedToken) (expiry : UInt64) : Prop :=
  ∃ parts d, Token.Compact.split r.token = .ok parts ∧ parts.readPayload = .ok d ∧
    d.countMember? "exp" = some (some expiry)

/-- The token has an expiry claim, and with the leeway it is not behind this time. -/
def LastsUntil (r : RoutedToken) (now : UInt64) (leeway : Duration) : Prop :=
  ∃ expiry, r.ExpiresAt expiry ∧ now.toNat ≤ expiry.toNat + leeway.seconds.toNat

/-- A longer leeway and an earlier time are only easier. -/
theorem LastsUntil.mono {now now' : UInt64} {leeway leeway' : Duration}
    (h : r.LastsUntil now leeway) (earlier : now' ≤ now)
    (longer : leeway.seconds ≤ leeway'.seconds) : r.LastsUntil now' leeway' := by
  obtain ⟨expiry, claim, time⟩ := h
  rw [UInt64.le_iff_toNat_le] at earlier longer
  exact ⟨expiry, claim, by omega⟩

theorem ExpiresAt.unique {expiry expiry' : UInt64} (h : r.ExpiresAt expiry)
    (h' : r.ExpiresAt expiry') : expiry = expiry' := by
  obtain ⟨parts, d, cut, body, claim⟩ := h
  obtain ⟨parts', d', cut', body', claim'⟩ := h'
  obtain rfl : parts = parts' := Except.ok.inj (cut.symm.trans cut')
  obtain rfl : d = d' := Except.ok.inj (body.symm.trans body')
  exact Option.some.inj (Option.some.inj (claim.symm.trans claim'))

/-- The time at which a token expires is in its trusted claims, whichever required claim was sought
first. -/
theorem expiresAt_iff_of_trusted {claims : Token.BoundClaims}
    (trusted : trustedClaims publicKeyCheck first r = .ok claims) {expiry : UInt64} :
    r.ExpiresAt expiry ↔ claims.expiry? = some expiry := by
  obtain ⟨parts, d, signed, payload, -⟩ := trustedClaims_eq_ok_iff.mp trusted
  obtain ⟨cut, -⟩ := authenticate_eq_ok_iff.mp signed
  obtain ⟨body, wanted, -⟩ := readPayload_eq_ok_iff.mp payload
  have claim : d.countMember? "exp" = some claims.expiry? :=
    (Token.BoundClaims.ofDocument?_eq_some_iff.mp wanted).1
  constructor
  · rintro ⟨parts', d', cut', body', claim'⟩
    obtain rfl : parts = parts' := Except.ok.inj (cut.symm.trans cut')
    obtain rfl : d = d' := Except.ok.inj (body.symm.trans body')
    exact Option.some.inj (claim.symm.trans claim')
  · intro own
    exact ⟨parts, d, cut, body, by rw [claim, own]⟩

/-- Trusted claims are admitted at a time exactly if the token lasts until then. -/
theorem allows_at_iff_of_trusted {claims : Token.BoundClaims}
    (trusted : trustedClaims publicKeyCheck first r = .ok claims) {now : UInt64}
    {leeway : Duration} :
    (ExpiryPolicy.at now).Allows leeway claims.expiry? ↔ r.LastsUntil now leeway := by
  simp only [ExpiryPolicy.Allows, LastsUntil, expiresAt_iff_of_trusted trusted, reduceCtorEq,
    false_or, ExpiryPolicy.at.injEq, exists_and_left, exists_eq_left']

/-! ## One token -/

/-- At a time the tokens verify that verify without regard to it and last until then. -/
theorem verdict_at_eq_ok_iff {now : UInt64} {leeway : Duration} (leeway₀ : Duration)
    (first first₀ : Nat → RequiredClaim) :
    r.verdict { s with expiry := .at now, leeway := leeway, firstSought := first } = .ok () ↔
      r.verdict { s with expiry := .ignore, leeway := leeway₀, firstSought := first₀ } = .ok () ∧
        r.LastsUntil now leeway := by
  rw [verdict_eq_ok_iff_trusted, verdict_eq_ok_iff_trusted]
  constructor
  · rintro ⟨claims, trusted, time, bound⟩
    exact ⟨⟨claims, trustedClaims_of_order trusted _, .inl rfl, bound⟩,
      (allows_at_iff_of_trusted trusted).mp time⟩
  · rintro ⟨⟨claims, trusted, -, bound⟩, time⟩
    exact ⟨claims, trustedClaims_of_order trusted _, (allows_at_iff_of_trusted trusted).mpr time,
      bound⟩

/-- Otherwise they have expired. The time is looked at before the nonce, so nothing about the nonce
is said of a token that does not last. -/
theorem verdict_at_eq_expired {now : UInt64} {leeway leeway₀ : Duration}
    {first₀ : Nat → RequiredClaim}
    (good : r.verdict { s with expiry := .ignore, leeway := leeway₀, firstSought := first₀ } =
      .ok ())
    (late : ¬r.LastsUntil now leeway) (first : Nat → RequiredClaim) :
    r.verdict { s with expiry := .at now, leeway := leeway, firstSought := first } =
      .error .expired := by
  obtain ⟨claims, trusted, -, -⟩ := verdict_eq_ok_iff_trusted.mp good
  have refused : (ExpiryPolicy.at now).admits leeway claims.expiry? = false := by
    rw [← Bool.not_eq_true, ExpiryPolicy.admits_eq_true_iff, allows_at_iff_of_trusted trusted]
    exact late
  have trusted' : trustedClaims s.publicKeyCheck (first r.index) r = .ok claims :=
    trustedClaims_of_order trusted _
  simp only [verdict, trusted', refused, Bool.not_false, if_true]

end RoutedToken

/-! ## A report -/

/-- The outcome at this place is there, and is that of a token that verified. -/
def Report.Verifies (report : Report) (i : Nat) : Prop :=
  ∃ o, report.outcomes[i]? = some o ∧ o.verified = true

/-- What the policy and the leeway do to the report on these tokens, in whatever order the required
claims are looked for. -/
structure ExpiresExactly (tokens : List RoutedToken)
    (report : (Nat → RequiredClaim) → ExpiryPolicy → Duration → Report) : Prop where
  /-- All reports list the tokens in their order, with what they claim and where they belong. -/
  listed : ∀ first policy leeway, (report first policy leeway).outcomes.map
    (fun o => (o.claimedIdentity, o.provider)) =
      tokens.map fun r => (r.preview.claimedIdentity, r.preview.provider)
  /-- Without regard to the time, the leeway plays no part. -/
  ignored : ∀ first leeway leeway', report first .ignore leeway = report first .ignore leeway'
  /-- All leave the same number unevaluated. -/
  unevaluated : ∀ first policy leeway first' policy' leeway',
    (report first policy leeway).unevaluated = (report first' policy' leeway').unevaluated
  /-- Of the tokens that verify without regard to the time, those verify at a time that last until
  then. -/
  exact : ∀ first₀ (leeway₀ : Duration) (i : Nat) (r : RoutedToken), tokens[i]? = some r →
    (report first₀ .ignore leeway₀).Verifies i → ∀ first now leeway,
      (report first (.at now) leeway).Verifies i ↔ r.LastsUntil now leeway
  /-- The others have expired. -/
  expired : ∀ first₀ (leeway₀ : Duration) (i : Nat), (report first₀ .ignore leeway₀).Verifies i →
    ∀ first now leeway, ¬(report first (.at now) leeway).Verifies i →
      ∃ o, (report first (.at now) leeway).outcomes[i]? = some o ∧ o.failure? = some .expired
  /-- What verifies at a time verifies at all earlier ones, and with all longer leeways. -/
  monotone : ∀ first₁ first₂ (now₁ now₂ : UInt64) (leeway₁ leeway₂ : Duration), now₁ ≤ now₂ →
    leeway₂.seconds ≤ leeway₁.seconds → ∀ i, (report first₂ (.at now₂) leeway₂).Verifies i →
      (report first₁ (.at now₁) leeway₁).Verifies i
  /-- Nothing verifies at a time that does not verify without regard to it. -/
  within : ∀ first first₀ (now : UInt64) (leeway leeway₀ : Duration) (i : Nat),
    (report first (.at now) leeway).Verifies i → (report first₀ .ignore leeway₀).Verifies i

/-- A token of a list is verified in the report on the list if it passes on its own. -/
theorem verifies_iff {tokens : List RoutedToken} {s : RoutedToken.Setting} {n i : Nat} :
    Report.Verifies ⟨tokens.map fun r => r.outcome (r.verdict s), n⟩ i ↔
      ∃ r, tokens[i]? = some r ∧ r.verdict s = .ok () := by
  simp only [Report.Verifies, List.getElem?_map, Option.map_eq_some_iff]
  constructor
  · rintro ⟨_, ⟨r, at_i, rfl⟩, verified⟩
    exact ⟨r, at_i, (RoutedToken.outcome_verified_iff r _).2.mp verified⟩
  · rintro ⟨r, at_i, good⟩
    exact ⟨_, ⟨r, at_i, rfl⟩, (RoutedToken.outcome_verified_iff r _).2.mpr good⟩

/-- The verdicts on tokens depend on policy and leeway in this way. The list of tokens is routed
without regard to either, so the same places are compared. -/
theorem expiresExactly_verdicts (tokens : List RoutedToken) (s : RoutedToken.Setting) (n : Nat) :
    ExpiresExactly tokens fun first policy leeway =>
      ⟨tokens.map fun r => r.outcome (r.verdict
        { s with expiry := policy, leeway := leeway, firstSought := first }), n⟩ where
  listed first policy leeway := by
    simp only [List.map_map]
    rfl
  ignored _ _ _ := rfl
  unevaluated _ _ _ _ _ _ := rfl
  exact first₀ leeway₀ i r at_i verified first now leeway := by
    obtain ⟨r', at_i', good⟩ := verifies_iff.mp verified
    obtain rfl : r = r' := Option.some.inj (at_i.symm.trans at_i')
    rw [verifies_iff]
    constructor
    · rintro ⟨r', at_i', timely⟩
      obtain rfl : r = r' := Option.some.inj (at_i.symm.trans at_i')
      exact ((RoutedToken.verdict_at_eq_ok_iff leeway₀ first first₀).mp timely).2
    · intro lasts
      exact ⟨r, at_i, (RoutedToken.verdict_at_eq_ok_iff leeway₀ first first₀).mpr ⟨good, lasts⟩⟩
  expired first₀ leeway₀ i verified first now leeway late := by
    obtain ⟨r, at_i, good⟩ := verifies_iff.mp verified
    -- It would verify otherwise, as it does without regard to the time.
    have short : ¬r.LastsUntil now leeway := by
      intro lasts
      have timely := (RoutedToken.verdict_at_eq_ok_iff leeway₀ first first₀).mpr ⟨good, lasts⟩
      exact late (verifies_iff.mpr ⟨r, at_i, timely⟩)
    have expired := RoutedToken.verdict_at_eq_expired good short first
    refine ⟨r.outcome (.error .expired), ?_, rfl⟩
    simp only [List.getElem?_map, at_i, Option.map_some, expired]
  monotone first₁ first₂ now₁ now₂ leeway₁ leeway₂ earlier longer i verified := by
    obtain ⟨r, at_i, timely⟩ := verifies_iff.mp verified
    obtain ⟨good, lasts⟩ := (RoutedToken.verdict_at_eq_ok_iff leeway₁ first₂ first₁).mp timely
    have lasting := lasts.mono earlier longer
    exact verifies_iff.mpr ⟨r, at_i,
      (RoutedToken.verdict_at_eq_ok_iff leeway₁ first₁ first₁).mpr ⟨good, lasting⟩⟩
  within first first₀ now leeway leeway₀ i verified := by
    obtain ⟨r, at_i, timely⟩ := verifies_iff.mp verified
    exact verifies_iff.mpr ⟨r, at_i,
      ((RoutedToken.verdict_at_eq_ok_iff leeway₀ first first₀).mp timely).1⟩

namespace Verification.Engine

open Authorization.Simulated

variable {e : Engine}

/-- The tokens of a text that are routed: none, if it is no bundle. -/
def routedOf (e : Engine) (wire : String) : List RoutedToken :=
  match Bundle.parse wire with
  | .error _ => []
  | .ok bundle => e.routedTokens bundle.tokens

theorem routedOf_of_parse {wire : String} {bundle : Bundle}
    (parsed : Bundle.parse wire = .ok bundle) :
    e.routedOf wire = e.routedTokens bundle.tokens := by
  simp only [routedOf, parsed]

/-- A pass over a text that is no bundle, or over one without tokens, is one over no tokens. -/
theorem run_result_of_print {b : Binder} (reach : b.Reachable e.digest) {q : Request}
    {f : Fingerprint} (print : e.localFingerprint q.peer q.role = .ok f) :
    (e.run b q).result = .ok (match Bundle.parse q.wire with
      | .error _ => {}
      | .ok bundle => e.verdicts q bundle f) := by
  rw [run_result reach]
  cases parsed : Bundle.parse q.wire with
  | error _ => rfl
  | ok bundle =>
    simp only [print, Except.map]
    split
    · next empty =>
      obtain none := List.isEmpty_iff.mp empty
      simp only [verdicts, none]
      rfl
    · rfl

/-- For any text, the passes with the fingerprint that this side has come to reports, whatever the
policy, the leeway, the binder and the order in which required claims are looked for. The policy and
the leeway do nothing to the reports but that a token which verifies without regard to the time has
expired if it does not last. -/
theorem run_expires_exactly (e : Engine) (wire : String) {peer : PeerRef} {role : Role}
    {f : Fingerprint} (print : e.localFingerprint peer role = .ok f) :
    ∃ report : (Nat → RequiredClaim) → ExpiryPolicy → Duration → Report,
      (∀ first policy leeway b, b.Reachable e.digest →
        (({ e with leeway := leeway, firstSought := first } : Engine).run b
          ⟨wire, peer, role, policy⟩).result = .ok (report first policy leeway)) ∧
      ExpiresExactly (e.routedOf wire) report := by
  let q (policy : ExpiryPolicy) : Request := ⟨wire, peer, role, policy⟩
  refine ⟨fun first policy leeway => match Bundle.parse wire with
    | .error _ => {}
    | .ok bundle =>
      ({ e with leeway := leeway, firstSought := first } : Engine).verdicts (q policy) bundle f,
    ?_, ?_⟩
  · intro first policy leeway b reach
    exact run_result_of_print (e := { e with leeway := leeway, firstSought := first })
      (q := q policy) reach print
  · unfold routedOf
    cases Bundle.parse wire with
    | error _ => exact expiresExactly_verdicts [] (e.setting (q .ignore) ⟨[]⟩ f) 0
    | ok bundle =>
      let n := bundle.tokens.length - (e.routedTokens bundle.tokens).length
      exact expiresExactly_verdicts _ (e.setting (q .ignore) bundle.salt f) n

/-- An issued token expires at the end of its lifetime. -/
theorem expiresAt_issued {m : Registration} {now : UInt64} (clock : FitsClock now) (i : Nat)
    (nonce : String) :
    (m.routed i (issuedToken m.entry now m.clientId nonce)).ExpiresAt
      (UInt64.ofNat (now.toNat + State.tokenLifetime)) :=
  ⟨_, _, Issuer.split_sign _ _, Issuer.readPayload_parts _ (exact_claimMembers clock),
    expiry_payload clock⟩

/-- Bob is 60 seconds lenient. A token that Alpha issued for an hour verifies in its last second of
these, and has expired in the next, whichever claim the two passes look for first. -/
theorem run_expires_exactly_aliceToBob :
    let v := Conversation.aliceToBob .sha512
    let e := v.engine v.recipientView .none (.ofSeconds 60)
    let alpha : Registration := Conversation.alphaAndBeta[0]
    let salt : Salt := ⟨List.replicate 32 9⟩
    let n : CompoundNonce := ⟨⟨List.replicate 32 1, List.length_replicate⟩,
      stretch .sha512 v.fingerprint.bytes salt.bytes⟩
    let token := issuedToken alpha.entry 1700000000 alpha.clientId n.text
    let wire := Bundle.toWire ⟨salt, [token]⟩
    ∀ first first' : Nat → RequiredClaim, ∃ last next : Report,
      (({ e with firstSought := first } : Engine).run {}
        ⟨wire, ⟨"alice"⟩, .verifier, .at 1700003660⟩).result = .ok last ∧
      (({ e with firstSought := first' } : Engine).run {}
        ⟨wire, ⟨"alice"⟩, .verifier, .at 1700003661⟩).result = .ok next ∧
      last.Verifies 0 ∧ ∃ o, next.outcomes[0]? = some o ∧ o.failure? = some .expired := by
  intro v e alpha salt n token wire first first'
  have clock : FitsClock 1700000000 := by decide
  have member : alpha ∈ v.members := List.mem_cons_self
  have print : e.localFingerprint ⟨"alice"⟩ .verifier = .ok v.fingerprint :=
    v.localFingerprint_recipient .none (.ofSeconds 60)
  have written : wire = Bundle.toWire ⟨salt, Session.honestTokens 1700000000 [alpha] [n]⟩ := rfl
  have good : (e.run {} ⟨wire, ⟨"alice"⟩, .verifier, .ignore⟩).result =
      .ok { outcomes := [alpha].map Registration.outcome } :=
    run_honestTokens (v.engine_knows _ _ _) v.family clock .empty
      (List.forall_mem_singleton.mpr member) written rfl print (List.forall_mem_singleton.mpr rfl)
      rfl
  obtain ⟨report, came, exactly⟩ := run_expires_exactly e wire print
  have parsed : Bundle.parse wire = .ok ⟨salt, [token]⟩ :=
    Bundle.parse_toWire (List.forall_mem_singleton.mpr (carried_issuedToken _ _ _ _))
  have at_0 : (e.routedOf wire)[0]? = some (alpha.routed 0 token) := by
    have routed : e.routedTokens [token] = [alpha.routed 0 token] :=
      routedTokens_issued (v.engine_knows _ _ _) v.family clock member n.text
    rw [routedOf_of_parse parsed, routed]
    rfl
  have expiry := expiresAt_issued (m := alpha) clock 0 n.text
  have verifies : (report e.firstSought .ignore e.leeway).Verifies 0 := by
    have same := (came e.firstSought .ignore e.leeway {} .empty).symm.trans good
    rw [Except.ok.inj same]
    exact ⟨_, rfl, rfl⟩
  have lasts := exactly.exact _ _ 0 _ at_0 verifies
  refine ⟨_, _, came first (.at 1700003660) e.leeway {} .empty,
    came first' (.at 1700003661) e.leeway {} .empty, ?_, ?_⟩
  · exact (lasts first 1700003660 e.leeway).mpr ⟨_, expiry, by decide +kernel⟩
  · refine exactly.expired _ _ 0 verifies first' 1700003661 e.leeway ?_
    intro verifies
    obtain ⟨expiry', claim, time⟩ := (lasts first' 1700003661 e.leeway).mp verifies
    obtain rfl := claim.unique expiry
    exact absurd time (by decide +kernel)

end Verification.Engine

end TokenBinding
