import TokenBinding.Proofs.Conversation
import TokenBinding.Proofs.Verification.Schedule

/-!
# What a pass is given up for

A pass is given up for one thing only: a bundle with tokens is at hand, and the fingerprint of this
side is not. `Engine.Lacks` lists the ways in which it can be missing, in the order in which they
are found: the local identity, then the other one, then the computation over both. The order of the
first two is all that decides when both identities are missing.

Everything else that can go wrong is about one token and is counted in the report. So the error does
not depend on the tokens, on what the registry and the resolver have for them, or on the expiry
policy, and a text that has no tokens in it comes to the empty report before anything is looked up.

What it does not establish. Sources that keep a look-up waiting are not covered (`IdentitySource`):
with them the other identity may be found missing before the local one is.

Main statement: `run_fails_iff_lacks`.
-/

namespace TokenBinding.Verification

/-- The text is a bundle, and there are tokens in it. -/
def Request.HasTokens (q : Request) : Prop :=
  ∃ bundle, Bundle.parse q.wire = .ok bundle ∧ bundle.tokens ≠ []

namespace Engine

/-- The fingerprint of this side is not to be had, for this reason. -/
inductive Lacks (e : Engine) (peer : PeerRef) (role : Role) : VerifyError → Prop
  /-- The local identity is missing. What the other look-up would find plays no part. -/
  | self {cause : IdentityError} (missing : e.identities.self = .error cause) :
      Lacks e peer role (.identity cause)
  | peer {self : PartyIdentity} {cause : IdentityError} (own : e.identities.self = .ok self)
      (missing : e.identities.peer peer = .error cause) : Lacks e peer role (.identity cause)
  | fingerprint {self other : PartyIdentity} {cause : FingerprintError}
      (own : e.identities.self = .ok self) (remote : e.identities.peer peer = .ok other)
      (failed : e.fingerprints (role.order self other).1 (role.order self other).2 =
        .error cause) : Lacks e peer role (.fingerprintUnavailable cause)

variable {e e' : Engine} {b b' : Binder} {q q' : Request} {peer : PeerRef} {role : Role}
  {cause : VerifyError}

/-- There is no fingerprint exactly if a party is lacking or the computation over both fails, and
the first of these that is found is the one that is given. -/
theorem localFingerprint_eq_error_iff :
    e.localFingerprint peer role = .error cause ↔ e.Lacks peer role cause := by
  constructor
  · intro h
    cases own : e.identities.self with
    | error missing =>
      simp only [localFingerprint, IdentitySource.pair, own] at h
      cases h
      exact .self own
    | ok self =>
      cases remote : e.identities.peer peer with
      | error missing =>
        simp only [localFingerprint, IdentitySource.pair, own, remote] at h
        cases h
        exact .peer own remote
      | ok other =>
        cases print : e.fingerprints (role.order self other).1 (role.order self other).2 with
        | error failed =>
          simp only [localFingerprint, IdentitySource.pair, own, remote, print] at h
          cases h
          exact .fingerprint own remote print
        | ok f =>
          simp only [localFingerprint, IdentitySource.pair, own, remote, print, reduceCtorEq] at h
  · intro lacks
    cases lacks with
    | self missing => simp only [localFingerprint, IdentitySource.pair, missing]
    | peer own missing => simp only [localFingerprint, IdentitySource.pair, own, missing]
    | fingerprint own remote failed =>
      simp only [localFingerprint, IdentitySource.pair, own, remote, failed]

/-- A pass over a bundle fails with the error of the local fingerprint, whatever the binder
holds. -/
theorem runBundle_eq_error_iff (e : Engine) (b : Binder) (q : Request) (bundle : Bundle) :
    (e.runBundle b q bundle).result = .error cause ↔
      e.localFingerprint q.peer q.role = .error cause := by
  cases pair : e.identities.pair q.peer with
  | error missing => simp only [runBundle, localFingerprint, pair, Except.error.injEq]
  | ok both =>
    obtain ⟨self, other⟩ := both
    cases print : e.fingerprints (q.role.order self other).1 (q.role.order self other).2 with
    | error failed => simp only [runBundle, localFingerprint, pair, print, Except.error.injEq]
    | ok f => simp only [runBundle, localFingerprint, pair, print, reduceCtorEq]

/-- A text without tokens in it ends the pass at once. -/
theorem run_of_not_hasTokens (none : ¬q.HasTokens) :
    (e.run b q).result = .ok {} ∧ (e.run b q).effects = [] ∧ (e.run b q).binder = b := by
  cases parsed : Bundle.parse q.wire with
  | error malformed =>
    simp only [run, parsed, and_self]
  | ok bundle =>
    have empty : bundle.isEmpty = true := by
      by_contra some
      apply none
      exact ⟨bundle, parsed, fun nil => some (List.isEmpty_iff.mpr nil)⟩
    simp only [run, parsed, empty, if_true, and_self]

/-- A pass fails exactly over a text with tokens, for lack of the local fingerprint. -/
theorem run_eq_error_iff :
    (e.run b q).result = .error cause ↔ q.HasTokens ∧ e.Lacks q.peer q.role cause := by
  by_cases has : q.HasTokens
  · obtain ⟨bundle, parsed, tokens⟩ := has
    rw [run_eq_runBundle parsed tokens, runBundle_eq_error_iff, localFingerprint_eq_error_iff]
    exact ⟨fun lacks => ⟨⟨bundle, parsed, tokens⟩, lacks⟩, And.right⟩
  · rw [(run_of_not_hasTokens has).1]
    exact ⟨nofun, fun h => absurd h.1 has⟩

/-- Nor is anything fetched for a text without tokens, in any order and however it is answered. -/
theorem MayAsk.eq_nil {answers : List Effect → Resolver} {asked : List Effect}
    (h : e.MayAsk answers b q asked) (none : ¬q.HasTokens) : asked = [] := by
  cases parsed : Bundle.parse q.wire with
  | error malformed => exact h.malformed malformed parsed
  | ok bundle =>
    obtain ⟨stages, reached, -⟩ := h.reached bundle parsed
    have empty : bundle.tokens = [] := by
      by_contra tokens
      exact none ⟨bundle, parsed, tokens⟩
    rw [empty] at reached
    cases reached with
    | start => rfl
    | step _ at_i _ _ => cases at_i

/-- A pass fails exactly if there are tokens in the text and the fingerprint of this side is not to
be had, and then with the reason for that; in every other case it comes to a report. Two passes over
texts with tokens fail alike if they have the same sources of identities and fingerprints, the same
peer and the same role, whatever else they differ in. Over a text that is no bundle or has no tokens
a pass comes to the empty report, looks up no identity, computes no fingerprint and fetches
nothing. -/
theorem run_fails_iff_lacks (e : Engine) (b : Binder) (q : Request) :
    (∀ cause, (e.run b q).result = .error cause ↔ q.HasTokens ∧ e.Lacks q.peer q.role cause) ∧
      ((∃ report, (e.run b q).result = .ok report) ↔
        (q.HasTokens → ∃ f, e.localFingerprint q.peer q.role = .ok f)) ∧
      (∀ (e' : Engine) (b' : Binder) (q' : Request), e'.identities = e.identities →
        e'.fingerprints = e.fingerprints → q'.peer = q.peer → q'.role = q.role →
          (q'.HasTokens ↔ q.HasTokens) → ∀ cause,
            (e'.run b' q').result = .error cause ↔ (e.run b q).result = .error cause) ∧
      (¬q.HasTokens → (e.run b q).result = .ok {} ∧ (e.run b q).effects = [] ∧
        (e.run b q).binder = b ∧
          ∀ answers asked, e.MayAsk answers b q asked → asked = []) := by
  refine ⟨fun cause => run_eq_error_iff, ?_, ?_, ?_⟩
  · constructor
    · rintro ⟨report, result⟩ has
      cases print : e.localFingerprint q.peer q.role with
      | ok f => exact ⟨f, rfl⟩
      | error cause =>
        have failed : (e.run b q).result = .error cause :=
          run_eq_error_iff.mpr ⟨has, localFingerprint_eq_error_iff.mp print⟩
        rw [result] at failed
        cases failed
    · intro available
      cases result : (e.run b q).result with
      | ok report => exact ⟨report, rfl⟩
      | error cause =>
        obtain ⟨has, lacks⟩ := run_eq_error_iff.mp result
        obtain ⟨f, print⟩ := available has
        rw [localFingerprint_eq_error_iff.mpr lacks] at print
        cases print
  -- Nothing else than these four is looked at for the local fingerprint.
  · intro e' b' q' identities fingerprints peer role tokens cause
    have same : e'.localFingerprint q'.peer q'.role = e.localFingerprint q.peer q.role := by
      simp only [localFingerprint, identities, fingerprints, peer, role]
    rw [run_eq_error_iff, run_eq_error_iff, tokens, ← localFingerprint_eq_error_iff,
      ← localFingerprint_eq_error_iff, same]
  · intro none
    obtain ⟨result, effects, binder⟩ := run_of_not_hasTokens (e := e) (b := b) none
    exact ⟨result, effects, binder, fun _ _ asks => asks.eq_nil none⟩

/-- An engine that has neither its own identity nor a record of the peer gives up over the text of
one token that is none, for lack of its own. -/
theorem run_fails_iff_lacks_noIdentity :
    let e : Engine := { (Conversation.aliceToBob .sha512).engine
      (IdentityTable.source { self? := none }) .none (.ofSeconds 60) with
        fingerprints := fun _ _ => .error (.computation "offline") }
    let q : Request := ⟨"AA==?x", ⟨"alice"⟩, .verifier, .ignore⟩
    e.identities.peer ⟨"alice"⟩ = .error (.notFound ⟨"alice"⟩) ∧
      (e.run {} q).result =
        .error (.identity (.selfUnavailable "mock has no local identity")) := by
  intro e q
  have tokens : q.HasTokens := ⟨⟨⟨[0]⟩, ["x"]⟩, by decide +kernel, List.cons_ne_nil _ _⟩
  obtain ⟨fails, -, -, -⟩ := run_fails_iff_lacks e {} q
  exact ⟨rfl, (fails _).mpr ⟨tokens, .self rfl⟩⟩

end Engine

end TokenBinding.Verification
