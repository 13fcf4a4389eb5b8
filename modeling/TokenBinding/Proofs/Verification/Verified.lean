import TokenBinding.Proofs.Conversation

/-!
# Which outcomes are verified

An outcome of a pass reports a token of the bundle that was routed, and the verdict on it with the
fingerprint of this side and the salt of the bundle (`outcome_of_run`). It is marked as verified if
that verdict is good, and names a failure if it is not.

What it does not establish. The evidence is as good as the keys that were fetched: whether they are
those of the provider is up to the resolver.

Main statement: `run_outcome_verified_iff`. In the report of any pass an outcome is verified exactly
if its failure is absent, and exactly if there is evidence for the token that it reports.
-/

namespace TokenBinding

open Authorization.Simulated (FitsClock Registration)

/-- An outcome says that its token verified exactly if the verdict was good, and then names no
failure. -/
theorem RoutedToken.outcome_verified_iff (r : RoutedToken)
    (result : Except VerificationFailure Unit) :
    ((r.outcome result).verified = true ↔ (r.outcome result).failure? = none) ∧
      ((r.outcome result).verified = true ↔ result = .ok ()) := by
  cases result with
  | error e => simp [outcome, Except.isOk, Except.toBool]
  | ok u => simp [outcome, Except.isOk, Except.toBool]

namespace Verification.Engine

variable {e : Engine} {b : Binder} {q : Request} {report : Report}

/-- An outcome in a report comes from a bundle, a local fingerprint and a routed token, the one at
the place of the outcome among those that were routed. -/
theorem outcome_of_run (hb : b.Reachable e.digest) (h : (e.run b q).result = .ok report) {i : Nat}
    {o : Outcome} (ho : report.outcomes[i]? = some o) :
    ∃ bundle f r, Bundle.parse q.wire = .ok bundle ∧ e.localFingerprint q.peer q.role = .ok f ∧
      (e.routedTokens bundle.tokens)[i]? = some r ∧
      o = r.outcome (r.verdict (e.setting q bundle.salt f)) := by
  rw [run_result hb] at h
  split at h
  · cases h
    cases ho
  · next bundle parsed =>
    split at h
    · cases h
      cases ho
    · cases print : e.localFingerprint q.peer q.role with
      | error cause => rw [print] at h; cases h
      | ok f =>
        rw [print] at h
        cases h
        simp only [verdicts, List.getElem?_map, Option.map_eq_some_iff] at ho
        obtain ⟨r, at_i, rfl⟩ := ho
        exact ⟨bundle, f, r, parsed, rfl, at_i, rfl⟩

/-- In the report of a pass, the outcome at a place reports the routed token at that place. It is
verified exactly if it names no failure, and exactly if there is evidence for that token, found with
the keys and the metadata that were fetched for it, with the local fingerprint and with the salt of
the bundle. -/
theorem run_outcome_verified_iff (hb : b.Reachable e.digest)
    (h : (e.run b q).result = .ok report) {i : Nat} {o : Outcome}
    (ho : report.outcomes[i]? = some o) :
    ∃ bundle f r, Bundle.parse q.wire = .ok bundle ∧ e.localFingerprint q.peer q.role = .ok f ∧
      (e.routedTokens bundle.tokens)[i]? = some r ∧ e.Routed bundle.tokens r ∧
      o.claimedIdentity = r.preview.claimedIdentity ∧ o.provider = r.preview.provider ∧
      (o.verified = true ↔ o.failure? = none) ∧
      (o.verified = true ↔
        ∃ v : RoutedToken.Evidence, v.Supports (e.setting q bundle.salt f) r) := by
  obtain ⟨bundle, f, r, parsed, print, at_i, rfl⟩ := outcome_of_run hb h ho
  have routed : e.Routed bundle.tokens r :=
    mem_routedTokens_iff.mp (List.mem_of_getElem? at_i)
  obtain ⟨failure, verdict⟩ :=
    RoutedToken.outcome_verified_iff r (r.verdict (e.setting q bundle.salt f))
  refine ⟨bundle, f, r, parsed, print, at_i, routed, rfl, rfl, failure, ?_⟩
  rw [verdict, RoutedToken.verdict_eq_ok_iff routed.preview]

/-- A bundle of two tokens for Alice and Bob, whose nonces are bound: there is evidence for the
first. -/
theorem run_outcome_verified_iff_aliceToBob :
    let v := Conversation.aliceToBob .sha512
    let e := v.engine v.recipientView .none (.ofSeconds 60)
    let salt : Salt := ⟨List.replicate 32 9⟩
    let n : CompoundNonce := ⟨⟨List.replicate 32 1, List.length_replicate⟩,
      stretch .sha512 v.fingerprint.bytes salt.bytes⟩
    let tokens := Session.honestTokens 1700000000 Conversation.alphaAndBeta [n, n]
    let q : Request := ⟨Bundle.toWire ⟨salt, tokens⟩, ⟨"alice"⟩, .verifier, .ignore⟩
    ∃ bundle f r, Bundle.parse q.wire = .ok bundle ∧
      (e.routedTokens bundle.tokens)[0]? = some r ∧
      r.preview.claimedIdentity = "alice@example.com" ∧
      ∃ evidence : RoutedToken.Evidence, evidence.Supports (e.setting q bundle.salt f) r := by
  intro v e salt n tokens q
  have clock : FitsClock 1700000000 := by decide
  have bound : ∀ m ∈ [n, n], m.hash = stretch .sha512 v.fingerprint.bytes salt.bytes :=
    List.forall_mem_cons.mpr ⟨rfl, List.forall_mem_singleton.mpr rfl⟩
  have report : (e.run {} q).result =
      .ok { outcomes := Conversation.alphaAndBeta.map Registration.outcome } :=
    run_honestTokens (v.engine_knows _ _ _) v.family clock .empty (fun _ mem => mem) rfl rfl
      (v.localFingerprint_recipient .none (.ofSeconds 60)) bound rfl
  obtain ⟨bundle, f, r, parsed, -, at_i, -, identity, -, -, verified⟩ :=
    run_outcome_verified_iff .empty report (i := 0) rfl
  exact ⟨bundle, f, r, parsed, at_i, identity.symm, verified.mp rfl⟩

end Verification.Engine

end TokenBinding
