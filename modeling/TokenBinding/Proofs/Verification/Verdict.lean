import TokenBinding.Proofs.Nonce.Cache
import TokenBinding.Verification.Pass

/-!
# A pass as a function of its tokens

The engine checks tokens one after the other and hands the binder on from each to the next. As far
as the result goes this is bookkeeping: over a reachable binder the outcome of a token is its
`verdict`, which knows neither the binder nor any other token (`checkAll_eq_verdicts`). So a pass
comes to one of four things, and `Engine.run_result` says which: an empty report for what is no
bundle or has no tokens, the error of the local fingerprint, or the report that lists a verdict for
every token that was routed.

`Engine.Routed` says what a routed token carries, and `mem_routedTokens_iff` that nothing else is
asked of it.
-/

namespace TokenBinding

namespace RoutedToken

/-- The verdict on a token, without a binder. -/
def verdict (s : Setting) (r : RoutedToken) : Except VerificationFailure Unit :=
  match trustedClaims s.publicKeyCheck (s.firstSought r.index) r with
  | .error e => .error e
  | .ok claims =>
    if !s.expiry.admits s.leeway claims.expiry? then .error .expired
    else
      match Binder.verdict s.digest claims.nonce? s.fingerprint s.salt with
      | .ok () => .ok ()
      | .error e => .error (.ofNonceError e)

variable {s : Setting} {b : Binder}

/-- Checking a token gives its verdict, and leaves a reachable binder. The verdict is stated without
a binder, so proofs about it need not say which entries there are. -/
theorem check_eq_verdict (h : b.Reachable s.digest) (r : RoutedToken) :
    (check s b r).1 = verdict s r ∧ (check s b r).2.Reachable s.digest := by
  cases trusted : trustedClaims s.publicKeyCheck (s.firstSought r.index) r with
  | error e => simp only [check, verdict, trusted]; exact ⟨trivial, h⟩
  | ok claims =>
    by_cases admitted : s.expiry.admits s.leeway claims.expiry? = true
    · have same := Binder.check_fst h claims.nonce? s.fingerprint s.salt
      have reach := Binder.check_snd_reachable h claims.nonce? s.fingerprint s.salt
      simp only [check, verdict, trusted, admitted, Bool.not_true, Bool.false_eq_true, if_false,
        ← same]
      split
      · next checked => rw [checked] at reach ⊢; exact ⟨rfl, reach⟩
      · next checked => rw [checked] at reach ⊢; exact ⟨rfl, reach⟩
    · simp only [check, verdict, trusted, admitted, Bool.not_false, if_true]
      exact ⟨trivial, h⟩

end RoutedToken

namespace Verification

/-- A filter that passes over look-ups leaves nothing of them. -/
theorem Effect.filter_lookUps {p : Effect → Bool} (h : ∀ lookup, p (.lookUp lookup) = false)
    (lookups : List Lookup) : (lookups.map Effect.lookUp).filter p = [] := by
  refine List.filter_eq_nil_iff.mpr fun x mem => ?_
  obtain ⟨lookup, -, rfl⟩ := List.mem_map.mp mem
  exact Bool.eq_false_iff.mp (h lookup)

variable {s : RoutedToken.Setting}

/-- Checking tokens in a row gives the verdict on each, and leaves a reachable binder. -/
theorem checkAll_eq_verdicts {b : Binder} (h : b.Reachable s.digest) (rs : List RoutedToken) :
    (checkAll s b rs).1 = rs.map (fun r => ⟨r, r.verdict s⟩) ∧
      (checkAll s b rs).2.Reachable s.digest := by
  induction rs generalizing b with
  | nil => exact ⟨rfl, h⟩
  | cons r rest ih =>
    obtain ⟨first, reach⟩ := RoutedToken.check_eq_verdict h r
    obtain ⟨later, reach'⟩ := ih reach
    refine ⟨?_, reach'⟩
    simp only [checkAll, List.map_cons, first, later]

namespace Engine

variable (e : Engine)

/-- The fingerprint of this side, over the two identities in the order of the role. -/
def localFingerprint (peer : PeerRef) (role : Role) : Except VerifyError Fingerprint :=
  match e.identities.pair peer with
  | .error cause => .error (.identity cause)
  | .ok (self, other) =>
    match e.fingerprints (role.order self other).1 (role.order self other).2 with
    | .error cause => .error (.fingerprintUnavailable cause)
    | .ok f => .ok f

/-- What the checks of a pass have in common. -/
def setting (q : Request) (salt : Salt) (f : Fingerprint) : RoutedToken.Setting where
  digest := e.digest
  publicKeyCheck := e.publicKeyCheck
  fingerprint := f
  salt := salt
  expiry := q.expiry
  leeway := e.leeway
  firstSought := e.firstSought

/-- The tokens of a bundle that can be routed, in order. -/
def routedTokens (tokens : List String) : List RoutedToken :=
  (routeAll e.registry e.resolver tokens).filterMap Route.resolved?

/-- The report that lists the verdict on every routed token. -/
def verdicts (q : Request) (bundle : Bundle) (f : Fingerprint) : Report where
  outcomes :=
    (e.routedTokens bundle.tokens).map fun r =>
      r.outcome (r.verdict (e.setting q bundle.salt f))
  unevaluated := bundle.tokens.length - (e.routedTokens bundle.tokens).length

/-- What a routed token carries: a token of the bundle at its place, its preview, and what was
fetched for it. -/
structure Routed (tokens : List String) (r : RoutedToken) : Prop where
  token : tokens[r.index]? = some r.token
  preview : Preview.ofToken e.registry r.token = .ok r.preview
  metadata : e.resolver.document r.index r.preview.provider.discoveryUrl = .ok r.metadata
  keys : e.resolver.keys r.index r.metadata.jwksUri = .ok r.keys

variable {e}

/-- The token that a route comes to is the one it started with, with its preview, the document of
its provider and the keys at the address in the document. -/
theorem route_resolved?_iff {index : Nat} {token : String} {r : RoutedToken} :
    (route e.registry e.resolver index token).resolved? = some r ↔
      index = r.index ∧ token = r.token ∧ Preview.ofToken e.registry r.token = .ok r.preview ∧
        e.resolver.document r.index r.preview.provider.discoveryUrl = .ok r.metadata ∧
        e.resolver.keys r.index r.metadata.jwksUri = .ok r.keys := by
  constructor
  · intro h
    unfold route at h
    split at h
    · cases h
    · next preview hp =>
      split at h
      · cases h
      · next metadata hm =>
        split at h
        · cases h
        · next keys hk => cases h; exact ⟨rfl, rfl, hp, hm, hk⟩
  · rintro ⟨rfl, rfl, hp, hm, hk⟩
    simp only [route, hp, hm, hk, Route.resolved?]

/-- The routed tokens are those that have a preview and whose fetches succeed. -/
theorem mem_routedTokens_iff {tokens : List String} {r : RoutedToken} :
    r ∈ e.routedTokens tokens ↔ e.Routed tokens r := by
  simp only [routedTokens, routeAll, List.mem_filterMap, List.mem_mapIdx]
  constructor
  · rintro ⟨_, ⟨i, bound, rfl⟩, resolved⟩
    obtain ⟨hi, ht, hp, hm, hk⟩ := route_resolved?_iff.mp resolved
    exact ⟨by rw [← hi, ← ht]; exact List.getElem?_eq_getElem bound, hp, hm, hk⟩
  · rintro ⟨ht, hp, hm, hk⟩
    obtain ⟨bound, at_index⟩ := List.getElem?_eq_some_iff.mp ht
    exact ⟨_, ⟨r.index, bound, rfl⟩, route_resolved?_iff.mpr ⟨rfl, at_index, hp, hm, hk⟩⟩

/-- With tokens in it, a bundle is not the end of the pass. -/
theorem run_eq_runBundle {b : Binder} {q : Request} {bundle : Bundle}
    (parsed : Bundle.parse q.wire = .ok bundle) (tokens : bundle.tokens ≠ []) :
    e.run b q = e.runBundle b q bundle := by
  have some : bundle.isEmpty = false := List.isEmpty_eq_false_iff.mpr tokens
  simp only [run, parsed, some, Bool.false_eq_true, if_false]

/-- A pass over a bundle gives the verdicts on its tokens, or the reason why there is no
fingerprint. Its cache has no part in either. -/
theorem runBundle_result {b : Binder} (h : b.Reachable e.digest) (q : Request) (bundle : Bundle) :
    (e.runBundle b q bundle).result =
      (e.localFingerprint q.peer q.role).map (e.verdicts q bundle) := by
  cases pair : e.identities.pair q.peer with
  | error cause => simp only [runBundle, localFingerprint, pair, Except.map]
  | ok both =>
    obtain ⟨self, other⟩ := both
    cases print : e.fingerprints (q.role.order self other).1 (q.role.order self other).2 with
    | error cause => simp only [runBundle, localFingerprint, pair, print, Except.map]
    | ok f =>
      obtain ⟨checked, -⟩ :=
        checkAll_eq_verdicts (s := e.setting q bundle.salt f) h (e.routedTokens bundle.tokens)
      have report : reportOf bundle.tokens.length
          (checkAll (e.setting q bundle.salt f) b (e.routedTokens bundle.tokens)).1 =
            e.verdicts q bundle f := by
        simp only [checked, reportOf, verdicts, List.map_map, List.length_map]
        rfl
      simp only [runBundle, localFingerprint, pair, print, Except.map, ← report]
      rfl

/-- What a pass comes to: the empty report over a text that is no bundle or has no tokens, and
otherwise the verdicts, or the reason why there is no fingerprint. -/
theorem run_result {b : Binder} (h : b.Reachable e.digest) (q : Request) :
    (e.run b q).result =
      match Bundle.parse q.wire with
      | .error _ => .ok {}
      | .ok bundle =>
        if bundle.isEmpty then .ok {}
        else (e.localFingerprint q.peer q.role).map (e.verdicts q bundle) := by
  cases parsed : Bundle.parse q.wire with
  | error cause => simp only [run, parsed]
  | ok bundle =>
    simp only [run, parsed]
    split
    · rfl
    · exact runBundle_result h q bundle

/-- With tokens and a fingerprint, a pass comes to the verdicts. -/
theorem run_result_of_localFingerprint {b : Binder} (h : b.Reachable e.digest) {q : Request}
    {bundle : Bundle} {f : Fingerprint} (parsed : Bundle.parse q.wire = .ok bundle)
    (nonempty : bundle.tokens ≠ []) (print : e.localFingerprint q.peer q.role = .ok f) :
    (e.run b q).result = .ok (e.verdicts q bundle f) := by
  have some : bundle.isEmpty = false := List.isEmpty_eq_false_iff.mpr nonempty
  simp only [run_result h, parsed, some, Bool.false_eq_true, if_false, print, Except.map]

/-- Whether a pass comes to a report depends on the fingerprint only, not on what is fetched. A
token that cannot be fetched for is counted, and gives no error. -/
theorem exists_report_iff {b : Binder} {q : Request} (reach : b.Reachable e.digest) :
    (∃ report, (e.run b q).result = .ok report) ↔
      ∀ bundle, Bundle.parse q.wire = .ok bundle → bundle.isEmpty = false →
        ∃ f, e.localFingerprint q.peer q.role = .ok f := by
  rw [run_result reach]
  cases parsed : Bundle.parse q.wire with
  | error cause => exact ⟨fun _ => nofun, fun _ => ⟨_, rfl⟩⟩
  | ok bundle =>
    simp only [Except.ok.injEq, forall_eq']
    cases empty : bundle.isEmpty with
    | true => exact ⟨fun _ => nofun, fun _ => ⟨_, rfl⟩⟩
    | false =>
      cases e.localFingerprint q.peer q.role with
      | error cause => exact ⟨nofun, fun print => absurd (print rfl) nofun⟩
      | ok f => exact ⟨fun _ _ => ⟨f, rfl⟩, fun _ => ⟨_, rfl⟩⟩

end Engine

end Verification

end TokenBinding
