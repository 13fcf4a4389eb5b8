import TokenBinding.Proofs.Session.Honest

/-!
# A pass over the tokens of a family

An engine that knows a family routes every token that a member of it issued (`route_issued`), and
its verdict on the token is good if the nonce is bound to the fingerprint and the salt of the pass
(`verdict_issued`). So a pass over a bundle of such tokens reports every one of them as verified, in
their order (`run_honestTokens`).
-/

namespace TokenBinding

open Authorization.Simulated
open Session (honestTokens)

/-- What a pass reports of a member's token when it verifies. -/
def Authorization.Simulated.Registration.outcome (r : Registration) : Outcome where
  claimedIdentity := r.email
  provider := r.provider
  verified := true
  failure? := none

/-- A member's token with what the family publishes for it. -/
def Authorization.Simulated.Registration.routed (r : Registration) (index : Nat) (token : String) :
    RoutedToken where
  index := index
  token := token
  preview := ⟨r.email, r.issuer.name, r.provider⟩
  metadata := r.issuer.metadata
  keys := r.issuer.keySet

namespace Verification

variable {rs : List Registration} {r : Registration} {now : UInt64}

/-- The preview of a token that a registered issuer made is the identity and the issuer that it was
made with, and the provider is that of the issuer. -/
theorem preview_issued (family : Family rs) (clock : FitsClock now) (h : r ∈ rs) (nonce : String) :
    Preview.ofToken (registryOf rs) (issuedToken r.entry now r.clientId nonce) =
      .ok ⟨r.email, r.issuer.name, r.provider⟩ :=
  ofToken_issued clock (family.emails r h) (byIssuer?_registryOf family h)

/-- A token that a member issued is routed with the keys that are found for it, as long as the
document is that of the member. -/
theorem route_issued_of_answers (family : Family rs) (clock : FitsClock now) (h : r ∈ rs)
    {resolver : Resolver} {i : Nat} {keys : Token.KeySet}
    (document : resolver.document i r.provider.discoveryUrl = .ok r.issuer.metadata)
    (fetched : resolver.keys i r.issuer.metadata.jwksUri = .ok keys) (nonce : String) :
    route (registryOf rs) resolver i (issuedToken r.entry now r.clientId nonce) =
      .resolved { r.routed i (issuedToken r.entry now r.clientId nonce) with keys := keys } := by
  simp only [route, preview_issued family clock h nonce, document, fetched]
  rfl

/-- It is dropped if there is no document. -/
theorem route_issued_of_error (family : Family rs) (clock : FitsClock now) (h : r ∈ rs)
    {resolver : Resolver} {i : Nat} {cause : MetadataError}
    (document : resolver.document i r.provider.discoveryUrl = .error cause) (nonce : String) :
    route (registryOf rs) resolver i (issuedToken r.entry now r.clientId nonce) =
      .noMetadata i ⟨r.email, r.issuer.name, r.provider⟩ cause := by
  simp only [route, preview_issued family clock h nonce, document]

/-- With what the family publishes, it is routed with the keys of its issuer. -/
theorem route_issued (family : Family rs) (clock : FitsClock now) (h : r ∈ rs) (i : Nat)
    (nonce : String) :
    route (registryOf rs) (resolverOf rs) i (issuedToken r.entry now r.clientId nonce) =
      .resolved (r.routed i (issuedToken r.entry now r.clientId nonce)) :=
  route_issued_of_answers family clock h (document_resolverOf family h i)
    (keys_resolverOf family h i) nonce

/-- The tokens name their users, issuers and providers in the order of the members. -/
theorem preview_honestTokens (family : Family rs) (clock : FitsClock now)
    {members : List Registration} {nonces : List CompoundNonce} (among : ∀ r ∈ members, r ∈ rs)
    (paired : nonces.length = members.length) :
    (honestTokens now members nonces).map (Preview.ofToken (registryOf rs)) =
      members.map (fun r => .ok ⟨r.email, r.issuer.name, r.provider⟩) := by
  induction members generalizing nonces with
  | nil => rfl
  | cons r members ih =>
    cases nonces with
    | nil => cases paired
    | cons n nonces =>
      have member : r ∈ rs := among r List.mem_cons_self
      have first := preview_issued family clock member n.text
      have later := ih (fun r mem => among r (List.mem_cons_of_mem _ mem)) (Nat.succ.inj paired)
      simp only [honestTokens, List.zipWith_cons_cons, List.map_cons, first]
      exact congrArg (Except.ok _ :: ·) later

/-- The token verifies if its nonce is bound to the fingerprint and the salt. -/
theorem verdict_issued {s : RoutedToken.Setting} {n : CompoundNonce} (family : Family rs)
    (clock : FitsClock now) (h : r ∈ rs) (ignored : s.expiry = .ignore)
    (bound : n.hash = stretch s.digest s.fingerprint.bytes s.salt.bytes) (i : Nat) :
    (r.routed i (issuedToken r.entry now r.clientId n.text)).verdict s = .ok () := by
  have preview : Preview.ofToken (registryOf rs)
      (r.routed i (issuedToken r.entry now r.clientId n.text)).token =
      .ok (r.routed i (issuedToken r.entry now r.clientId n.text)).preview :=
    preview_issued family clock h n.text
  rw [RoutedToken.verdict_eq_ok_iff preview]
  exact ⟨_, evidence_issued clock ignored bound (CompoundNonce.parse_text n)⟩

/-- A token is refused for want of a key if the keys that were fetched for it do not have the one
that its signer names, whatever it says. -/
theorem verdict_of_foreignKeys {s : RoutedToken.Setting} {r : RoutedToken} {i : Issuer}
    {claims : List (String × Json.Value)} (signed : r.token = i.sign (.object claims))
    (unknown : r.keys.select (some i.keyId) = none) : r.verdict s = .error .keyNotFound := by
  have head := i.readHeader_parts claims
  simp only [RoutedToken.verdict, RoutedToken.trustedClaims, RoutedToken.authenticate, signed,
    i.split_sign claims, head, unknown]

/-- The outcomes of a bundle of issued tokens, one for each member, in order. The places of the
tokens in the bundle do not matter, so the induction is over any way to count them. -/
theorem outcomes_honestTokens {s : RoutedToken.Setting} (family : Family rs)
    (clock : FitsClock now) (ignored : s.expiry = .ignore) {members : List Registration}
    {nonces : List CompoundNonce} (among : ∀ r ∈ members, r ∈ rs)
    (bound : ∀ n ∈ nonces, n.hash = stretch s.digest s.fingerprint.bytes s.salt.bytes)
    (paired : nonces.length = members.length) (place : Nat → Nat) :
    (((honestTokens now members nonces).mapIdx fun i token =>
      route (registryOf rs) (resolverOf rs) (place i) token).filterMap Route.resolved?).map
        (fun r => r.outcome (r.verdict s)) = members.map Registration.outcome := by
  induction members generalizing nonces place with
  | nil => rfl
  | cons r members ih =>
    cases nonces with
    | nil => cases paired
    | cons n nonces =>
      have member : r ∈ rs := among r List.mem_cons_self
      have routed := route_issued family clock member (place 0) n.text
      have good := verdict_issued family clock member ignored (bound n List.mem_cons_self) (place 0)
      have later := ih (fun r mem => among r (List.mem_cons_of_mem _ mem))
        (fun n mem => bound n (List.mem_cons_of_mem _ mem)) (Nat.succ.inj paired)
        (fun i => place (i + 1))
      simp only [honestTokens, List.zipWith_cons_cons, List.mapIdx_cons, List.filterMap_cons,
        routed, Route.resolved?, List.map_cons, good]
      exact congrArg (r.outcome :: ·) later

namespace Engine

variable {e : Engine} {b : Binder} {q : Request}

/-- The engine has the providers of a family and resolves what the family publishes. -/
structure Knows (e : Engine) (rs : List Registration) : Prop where
  registry : e.registry = registryOf rs
  resolver : e.resolver = resolverOf rs

/-- Of a bundle of one issued token, that token is routed. -/
theorem routedTokens_issued (knows : e.Knows rs) (family : Family rs) (clock : FitsClock now)
    (h : r ∈ rs) (nonce : String) :
    e.routedTokens [issuedToken r.entry now r.clientId nonce] =
      [r.routed 0 (issuedToken r.entry now r.clientId nonce)] := by
  have routed := route_issued family clock h 0 nonce
  simp only [routedTokens, knows.registry, knows.resolver, routeAll, List.mapIdx_cons,
    List.mapIdx_nil, List.filterMap_cons, List.filterMap_nil, routed, Route.resolved?]

/-- A pass over issued tokens whose nonces are bound reports all of them as verified. The issuers
are those of a family, so each token finds its own provider and its own key. -/
theorem run_honestTokens (knows : e.Knows rs) (family : Family rs) (clock : FitsClock now)
    (hb : b.Reachable e.digest) {members : List Registration} {nonces : List CompoundNonce}
    {salt : Salt} {f : Fingerprint} (among : ∀ r ∈ members, r ∈ rs)
    (wire : q.wire = Bundle.toWire ⟨salt, honestTokens now members nonces⟩)
    (ignored : q.expiry = .ignore) (print : e.localFingerprint q.peer q.role = .ok f)
    (bound : ∀ n ∈ nonces, n.hash = stretch e.digest f.bytes salt.bytes)
    (paired : nonces.length = members.length) :
    (e.run b q).result = .ok { outcomes := members.map Registration.outcome } := by
  have parsed : Bundle.parse q.wire = .ok ⟨salt, honestTokens now members nonces⟩ := by
    rw [wire]
    exact Bundle.parse_toWire fun token mem => Session.carried_honestTokens mem
  have outcomes := outcomes_honestTokens (s := e.setting q salt f) family clock ignored among bound
    paired id
  have count : (honestTokens now members nonces).length = members.length := by
    rw [honestTokens, List.length_zipWith, paired, Nat.min_self]
  rw [run_result hb, parsed]
  by_cases empty : members = []
  · subst empty
    rfl
  · have tokens : (⟨salt, honestTokens now members nonces⟩ : Bundle).isEmpty = false := by
      rw [Bundle.isEmpty, List.isEmpty_eq_false_iff, ← List.length_pos_iff, count]
      exact List.length_pos_iff.mpr empty
    have report : e.verdicts q ⟨salt, honestTokens now members nonces⟩ f =
        { outcomes := members.map Registration.outcome } := by
      have all := congrArg List.length outcomes
      rw [List.length_map, List.length_map] at all
      rw [verdicts, routedTokens, routeAll, knows.registry, knows.resolver]
      refine congr (congrArg Report.mk outcomes) ?_
      rw [count, ← all]
      exact Nat.sub_self _
    simp only [tokens, Bool.false_eq_true, if_false, print, Except.map, report]

end Engine

end Verification

end TokenBinding
