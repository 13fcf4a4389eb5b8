import TokenBinding.Proofs.Metadata.Http
import TokenBinding.Proofs.Verification.Answers
import TokenBinding.Proofs.Verification.Verified

/-!
# What a bundle can make a pass ask for

Whoever sends a bundle chooses its tokens, and with them the issuers that a pass follows up. That is
all: an issuer is looked up in the registry, the first address is the provider's own, the second is
the one that the provider's document gives, and the keys are those that were found there. `due` says
what a pass asks for a token, and no pass asks for anything else, however and in whatever order it
is answered and wherever it is given up.

Over HTTP that is held to secure addresses, the address of a request is requested first, if it is
secure, and then those where the answers lead (`AsksOverHttp`). The sender of a bundle has no part
in that. Who answers at a secure address has: it may send the client on to one that is not, and that
one is requested (`run_requests_insecure`).

What it does not establish. Which bytes go over the wire and how long a request may take is not
covered, and a provider that lies about its own keys is believed.

Main statement: `run_asks_due`.
-/

namespace TokenBinding

open Authorization.Simulated

/-! ## Keys -/

/-- The key that a header selects is from the set. -/
theorem Token.KeySet.mem_of_select {keys : Token.KeySet} {id? : Option String} {key : Token.Key}
    (h : keys.select id? = some key) : key ∈ keys.keys := by
  cases id? with
  | some id => exact List.mem_of_find?_eq_some h
  | none =>
    unfold select at h
    dsimp only at h
    split at h
    · next only single =>
      obtain rfl := Option.some.inj h
      rw [single]
      exact List.mem_singleton_self _
    · cases h

/-- The key under which the signature of a token is good. It is one of those that were fetched for
the token, and of the header it is only the key id that has a part in which. -/
structure RoutedToken.VerifyingKeyIs (publicKeyCheck : Token.PublicKeyCheck) (r : RoutedToken)
    (parts : Token.Compact) (header : Token.Header) (key : Token.Key) : Prop where
  head : parts.readHeader = .ok header
  fetched : key ∈ r.keys.keys
  selected : r.keys.select header.keyId? = some key
  signature : ∃ verifying, key.material.verifying = .ok verifying ∧
    parts.SignedUnder publicKeyCheck header.algorithm verifying

/-- A signature that is good is good under a key of the fetched set, the one that the header
selects. -/
theorem RoutedToken.verifyingKeyIs_of_authenticate {publicKeyCheck : Token.PublicKeyCheck}
    {r : RoutedToken} {parts : Token.Compact}
    (h : authenticate publicKeyCheck r.token r.keys = .ok parts) :
    ∃ header key, r.VerifyingKeyIs publicKeyCheck parts header key := by
  obtain ⟨-, header, key, verifying, head, selected, ready, checked⟩ :=
    authenticate_eq_ok_iff.mp h
  obtain ⟨-, signature⟩ := Token.checkSignature_eq_ok_iff.mp checked
  exact ⟨header, key, head, Token.KeySet.mem_of_select selected, selected, verifying, ready,
    signature⟩

/-- The addresses that are requested over HTTP to get what a pass asks for. -/
def Verification.Effect.requested (web : Http.Web) (policy : Http.Policy) :
    Verification.Effect → List String
  | fetchDocument _ url => (Http.getDocument web policy url).requested
  | fetchKeys _ url => (Http.getKeys web policy url).requested
  | _ => []

namespace Verification.Engine

variable {e : Engine} {b : Binder} {q : Request} {asked : List Effect} {bundle : Bundle} {i : Nat}
  {token : String}

/-! ## What is due to a token -/

/-- What a pass asks for a token: nothing if it has no preview, and otherwise the document of its
provider and, if that arrives, the key set at the address that the document gives. -/
def due (e : Engine) (i : Nat) (token : String) : List Effect :=
  match Preview.ofToken e.registry token with
  | .error _ => []
  | .ok preview =>
    .fetchDocument i preview.provider.discoveryUrl ::
      match e.resolver.document i preview.provider.discoveryUrl with
      | .error _ => []
      | .ok metadata => [.fetchKeys i metadata.jwksUri]

/-- What routing a token asks for is what is due to it. `due` is read off the bundle, the registry
and the answers; the route is what the pass does. -/
theorem effects_route (e : Engine) (i : Nat) (token : String) :
    (route e.registry e.resolver i token).effects = e.due i token := by
  unfold route due
  cases Preview.ofToken e.registry token with
  | error cause => rfl
  | ok preview =>
    cases document : e.resolver.document i preview.provider.discoveryUrl with
    | error cause => simp only [document, Route.effects]
    | ok metadata =>
      cases answer : e.resolver.keys i metadata.jwksUri <;>
        simp only [document, answer, Route.effects]

theorem due_eq_of_ok {preview : Preview} {metadata : ProviderMetadata}
    (found : Preview.ofToken e.registry token = .ok preview)
    (document : e.resolver.document i preview.provider.discoveryUrl = .ok metadata) :
    e.due i token = [.fetchDocument i preview.provider.discoveryUrl,
      .fetchKeys i metadata.jwksUri] := by
  simp only [due, found, document]

/-- Nothing is due to a token without a preview, and to any other one document and at most one key
set. -/
theorem mem_due {x : Effect} (h : x ∈ e.due i token) :
    ∃ preview, Preview.ofToken e.registry token = .ok preview ∧
      (x = .fetchDocument i preview.provider.discoveryUrl ∨
        ∃ metadata, e.resolver.document i preview.provider.discoveryUrl = .ok metadata ∧
          x = .fetchKeys i metadata.jwksUri) := by
  unfold due at h
  split at h
  · cases h
  · next preview found =>
    refine ⟨preview, found, ?_⟩
    rcases List.mem_cons.mp h with rfl | second
    · exact .inl rfl
    · split at second
      · cases second
      · next metadata document =>
        exact .inr ⟨metadata, document, List.mem_singleton.mp second⟩

/-- A token is routed to a provider of the registry. -/
theorem provider_mem_of_preview {registry : Registry} {preview : Preview}
    (h : Preview.ofToken registry token = .ok preview) : preview.provider ∈ registry.providers := by
  obtain ⟨_, _, _, _, _, _, _, _, _, _, _, _, provider⟩ := Preview.ofToken_eq_ok_iff.mp h
  exact List.mem_of_find?_eq_some provider

/-! ## What is asked -/

/-- Every request is made for a token of the bundle. -/
theorem MayAsk.token_of_mem (h : e.MayAsk (fun _ => e.resolver) b q asked) :
    ∀ x ∈ asked, ∃ bundle i token, Bundle.parse q.wire = .ok bundle ∧
      bundle.tokens[i]? = some token ∧ x.token? = some i := by
  intro x mem
  cases parsed : Bundle.parse q.wire with
  | error cause =>
    rw [h.malformed cause parsed] at mem
    cases mem
  | ok bundle =>
    obtain ⟨stages, reached, -⟩ := h.reached bundle parsed
    obtain ⟨i, token, at_i, own⟩ := reached.token_of_mem x mem
    exact ⟨bundle, i, token, rfl, at_i, own⟩

/-- The requests for a token are the beginning of what is due to it, and all of it if the pass comes
to a report. -/
theorem MayAsk.due (h : e.MayAsk (fun _ => e.resolver) b q asked)
    (parsed : Bundle.parse q.wire = .ok bundle) (at_i : bundle.tokens[i]? = some token) :
    asked.filter (·.token? = some i) <+: e.due i token ∧
      ((∃ report, (e.run b q).result = .ok report) →
        asked.filter (·.token? = some i) = e.due i token) := by
  obtain ⟨stages, reached, settled⟩ := h.reached bundle parsed
  obtain ⟨prefixed, whole⟩ := reached.requests at_i
  rw [effects_route] at prefixed whole
  exact ⟨prefixed, fun report => whole (settled report)⟩

/-- The keys of a routed token were fetched for it, if the pass comes to a report. -/
theorem MayAsk.fetchKeys_mem (h : e.MayAsk (fun _ => e.resolver) b q asked)
    (parsed : Bundle.parse q.wire = .ok bundle) {r : RoutedToken}
    (routed : e.Routed bundle.tokens r)
    (report : ∃ report, (e.run b q).result = .ok report) :
    Effect.fetchKeys r.index r.metadata.jwksUri ∈ asked := by
  have whole := (h.due parsed routed.token).2 report
  have owed : Effect.fetchKeys r.index r.metadata.jwksUri ∈ e.due r.index r.token := by
    rw [due_eq_of_ok routed.preview routed.metadata]
    exact List.mem_cons_of_mem _ List.mem_cons_self
  rw [← whole] at owed
  exact (List.mem_filter.mp owed).1

/-! ## Over HTTP -/

/-- What the requests of a pass come to over HTTP that is held to secure addresses. -/
structure AsksOverHttp (e : Engine) (b : Binder) (q : Request) (asked : List Effect)
    (web : Http.Web) (policy : Http.Policy) : Prop where
  /-- A pass that asks for a secure address requests it, and after it only addresses where the
  answers lead. -/
  requestedFor : ∀ x ∈ asked, ∀ url, x.url? = some url →
    Http.RequestedFor web url (x.requested web policy)
  /-- Any other address is refused, whoever gave it. -/
  refused : ∀ i url, ¬Http.Secure url → e.resolver.document i url = .error (.insecureUrl url) ∧
    e.resolver.keys i url = .error (.insecureUrl url)
  /-- If an address is requested that is not secure, then a secure address led to one, which was
  followed. -/
  downgraded : ∀ x ∈ asked, ∀ u ∈ x.requested web policy, ¬Http.Secure u →
    ∃ v w, v ∈ x.requested web policy ∧ w ∈ x.requested web policy ∧
      web.Downgrades Http.userAgent v w
  /-- If no secure address leads to one that is not, only secure addresses are requested, and what
  is at the others plays no part. -/
  upright : (∀ v w, ¬web.Downgrades Http.userAgent v w) →
    (∀ x ∈ asked, ∀ u ∈ x.requested web policy, Http.Secure u) ∧
    ∀ web' : Http.Web, web.AgreesWhereSecure web' Http.userAgent →
      ({ e with resolver := Http.resolver web' policy } : Engine).run b q = e.run b q

/-- What is requested over HTTP does not depend on the bundle beyond the addresses that the pass
asks for. -/
theorem asksOverHttp {web : Http.Web} {policy : Http.Policy}
    (http : e.resolver = Http.resolver web policy) (https : policy.requireHttps = true)
    (b : Binder) (q : Request) (asked : List Effect) : e.AsksOverHttp b q asked web policy := by
  have downgraded : ∀ x : Effect, ∀ u ∈ x.requested web policy, ¬Http.Secure u →
      ∃ v w, v ∈ x.requested web policy ∧ w ∈ x.requested web policy ∧
        web.Downgrades Http.userAgent v w := by
    intro x u mem insecure
    cases x with
    | fetchDocument i url => exact Http.exists_downgrade_of_mem_get https insecure mem
    | fetchKeys i url => exact Http.exists_downgrade_of_mem_get https insecure mem
    | lookUp lookup => cases mem
    | computeFingerprint producer recipient => cases mem
  refine ⟨?_, ?_, fun x _ => downgraded x, fun upright => ⟨?_, ?_⟩⟩
  · intro x _ url asks
    cases x with
    | fetchDocument i address =>
      obtain rfl := Option.some.inj asks
      exact Http.requestedFor_get https
    | fetchKeys i address =>
      obtain rfl := Option.some.inj asks
      exact Http.requestedFor_get https
    | lookUp lookup => cases asks
    | computeFingerprint producer recipient => cases asks
  · intro i url insecure
    rw [http]
    exact ⟨congrArg Http.Fetch.result (Http.get_of_insecure https insecure),
      congrArg Http.Fetch.result (Http.get_of_insecure https insecure)⟩
  · intro x _ u mem
    by_contra insecure
    obtain ⟨v, w, -, -, downgrade⟩ := downgraded x u mem insecure
    exact upright v w downgrade
  · intro web' same
    rw [Http.resolver_congr https same upright, ← http]

/-! ## Altogether -/

/-- What holds of the requests of a pass. -/
structure AsksOnlyDue (e : Engine) (b : Binder) (q : Request) (asked : List Effect) : Prop where
  /-- Each is made for a token that has a preview, at the address of a registered provider or at the
  one that the provider's document gives. -/
  previewed : ∀ x ∈ asked, ∃ bundle i token preview, Bundle.parse q.wire = .ok bundle ∧
    bundle.tokens[i]? = some token ∧ Preview.ofToken e.registry token = .ok preview ∧
    preview.provider ∈ e.registry.providers ∧
    (x = .fetchDocument i preview.provider.discoveryUrl ∨
      ∃ metadata, e.resolver.document i preview.provider.discoveryUrl = .ok metadata ∧
        x = .fetchKeys i metadata.jwksUri)
  /-- No token is asked for more than is due to it. -/
  atMost : ∀ bundle i token, Bundle.parse q.wire = .ok bundle → bundle.tokens[i]? = some token →
    asked.filter (·.token? = some i) <+: e.due i token
  /-- In a pass that comes to a report, no token is asked for less. -/
  exactly : ∀ report, (e.run b q).result = .ok report → ∀ bundle i token,
    Bundle.parse q.wire = .ok bundle → bundle.tokens[i]? = some token →
      asked.filter (·.token? = some i) = e.due i token
  /-- Every outcome is that of a token whose keys were fetched for it. If it verified, its signature
  was good, and a signature is good only under one of these keys. -/
  keys : ∀ (report : Report) (k : Nat) (o : Outcome), (e.run b q).result = .ok report →
    report.outcomes[k]? = some o → ∃ (bundle : Bundle) (r : RoutedToken),
      Bundle.parse q.wire = .ok bundle ∧ (e.routedTokens bundle.tokens)[k]? = some r ∧
      Effect.fetchKeys r.index r.metadata.jwksUri ∈ asked ∧
      e.resolver.keys r.index r.metadata.jwksUri = .ok r.keys ∧
      (o.verified = true →
        ∃ parts, RoutedToken.authenticate e.publicKeyCheck r.token r.keys = .ok parts) ∧
      ∀ parts, RoutedToken.authenticate e.publicKeyCheck r.token r.keys = .ok parts →
        ∃ header key, r.VerifyingKeyIs e.publicKeyCheck parts header key
  /-- Over HTTP that is held to secure addresses, it is known what each comes to. -/
  overHttp : ∀ web policy, e.resolver = Http.resolver web policy → policy.requireHttps = true →
    e.AsksOverHttp b q asked web policy

/-- The requests over a resolver are those that are due, in every order in which a pass may make
them. -/
theorem MayAsk.asksOnlyDue (h : e.MayAsk (fun _ => e.resolver) b q asked)
    (reach : b.Reachable e.digest) : e.AsksOnlyDue b q asked where
  previewed := by
    intro x mem
    obtain ⟨bundle, i, token, parsed, at_i, own⟩ := h.token_of_mem x mem
    have here : x ∈ asked.filter (·.token? = some i) :=
      List.mem_filter.mpr ⟨mem, decide_eq_true own⟩
    obtain ⟨preview, found, request⟩ := mem_due ((h.due parsed at_i).1.subset here)
    exact ⟨bundle, i, token, preview, parsed, at_i, found, provider_mem_of_preview found, request⟩
  atMost _ _ _ parsed at_i := (h.due parsed at_i).1
  exactly report result _ _ _ parsed at_i := (h.due parsed at_i).2 ⟨report, result⟩
  keys := by
    intro report k o result at_k
    obtain ⟨bundle, f, r, parsed, -, here, rfl⟩ := outcome_of_run reach result at_k
    have routed : e.Routed bundle.tokens r := mem_routedTokens_iff.mp (List.mem_of_getElem? here)
    refine ⟨bundle, r, parsed, here, h.fetchKeys_mem parsed routed ⟨report, result⟩, routed.keys,
      ?_, fun parts signed => RoutedToken.verifyingKeyIs_of_authenticate signed⟩
    intro verified
    have good := (RoutedToken.outcome_verified_iff r _).2.mp verified
    obtain ⟨claims, trusted, -⟩ := RoutedToken.verdict_eq_ok_iff_trusted.mp good
    obtain ⟨parts, -, signed, -⟩ := RoutedToken.trustedClaims_eq_ok_iff.mp trusted
    exact ⟨parts, signed⟩
  overHttp web policy http https := asksOverHttp http https b q asked

/-- The requests of a pass, in every order in which it may make them, are those that are due to the
tokens of its bundle, and no others. Where the answers change as the pass goes on, they are those
that are due over a resolver with the answers that the pass got. -/
theorem run_asks_due (reach : b.Reachable e.digest) :
    e.MayAsk (fun _ => e.resolver) b q ((e.run b q).effects.filter (·.token?.isSome)) ∧
      (∀ asked, e.MayAsk (fun _ => e.resolver) b q asked → e.AsksOnlyDue b q asked) ∧
      ∀ answers asked, e.MayAsk answers b q asked →
        ∃ resolver, resolver.DrawnFrom answers asked ∧
          ({ e with resolver := resolver } : Engine).AsksOnlyDue b q asked := by
  refine ⟨e.run_mayAsk b q, fun _ h => h.asksOnlyDue reach, ?_⟩
  intro answers asked h
  obtain ⟨resolver, drawn, fixed⟩ := h.exists_resolver reach
  exact ⟨resolver, drawn, fixed.asksOnlyDue reach⟩

/-! ## Two webs -/

/-- The issuer of the token that Alice sends. -/
def alpha : Registration := Conversation.alphaAndBeta[0]

/-- A token of the issuer. -/
def tokenOfAlpha : String :=
  let n : CompoundNonce := ⟨⟨List.replicate 32 1, List.length_replicate⟩, .zero⟩
  issuedToken alpha.entry 1700000000 alpha.clientId n.text

/-- What Bob receives from Alice. -/
def bundleOfAlpha : Bundle := ⟨⟨List.replicate 32 9⟩, [tokenOfAlpha]⟩

/-- Bob is to verify it. -/
def requestOfAlpha : Request := ⟨bundleOfAlpha.toWire, ⟨"alice"⟩, .verifier, .ignore⟩

/-- The engine of Bob, over a web. -/
def bobOver (web : Http.Web) : Engine :=
  let v := Conversation.aliceToBob .sha512
  { v.engine v.recipientView .none (.ofSeconds 60) with resolver := Http.resolver web {} }

theorem document_bobOver (web : Http.Web) (i : Nat) (url : String) :
    (bobOver web).resolver.document i url = (Http.getDocument web {} url).result := rfl

theorem parse_requestOfAlpha : Bundle.parse requestOfAlpha.wire = .ok bundleOfAlpha :=
  Bundle.parse_toWire (List.forall_mem_singleton.mpr (carried_issuedToken _ _ _ _))

/-- Over any web, the pass of Bob comes to a report. -/
theorem result_bobOver (web : Http.Web) :
    ∃ report, ((bobOver web).run {} requestOfAlpha).result = .ok report := by
  have print : (bobOver web).localFingerprint requestOfAlpha.peer requestOfAlpha.role =
      .ok (Conversation.aliceToBob .sha512).fingerprint :=
    (Conversation.aliceToBob .sha512).localFingerprint_recipient .none (.ofSeconds 60)
  exact ⟨_, run_result_of_localFingerprint .empty parse_requestOfAlpha (List.cons_ne_nil _ _) print⟩

/-- What is due to the token of Alpha over a web that has a document for it. -/
theorem due_bobOver {web : Http.Web} {metadata : ProviderMetadata}
    (document : (Http.getDocument web {} alpha.provider.discoveryUrl).result = .ok metadata) :
    (bobOver web).due 0 tokenOfAlpha =
      [.fetchDocument 0 alpha.provider.discoveryUrl, .fetchKeys 0 metadata.jwksUri] := by
  have clock : FitsClock 1700000000 := by decide
  have member : alpha ∈ Conversation.alphaAndBeta := List.mem_cons_self
  have preview : Preview.ofToken (bobOver web).registry tokenOfAlpha =
      .ok ⟨alpha.email, alpha.issuer.name, alpha.provider⟩ :=
    preview_issued (Conversation.aliceToBob .sha512).family clock member _
  exact due_eq_of_ok preview ((document_bobOver ..).trans document)

/-- A web that has one document, which gives an address for its keys that is not secure. -/
def insecureKeys : Http.Web where
  answer _ _ :=
    .ok ⟨200, Bytes.ofText "[\"https://alpha.example.com\", \"http://keys.test\"]", none⟩
  locate _ location := some location

/-- The keys for the token of Alpha are asked for at the address that is not secure, and there is no
request for it. -/
theorem run_asks_due_insecureKeys :
    let e := bobOver insecureKeys
    ∃ asked report, e.MayAsk (fun _ => e.resolver) {} requestOfAlpha asked ∧
      (e.run {} requestOfAlpha).result = .ok report ∧
      asked.filter (·.token? = some 0) =
        [.fetchDocument 0 alpha.provider.discoveryUrl, .fetchKeys 0 "http://keys.test"] ∧
      e.resolver.keys 0 "http://keys.test" = .error (.insecureUrl "http://keys.test") ∧
      ∀ x ∈ asked, ∀ u ∈ x.requested insecureKeys {}, Http.Secure u := by
  intro e
  have document : (Http.getDocument insecureKeys {} alpha.provider.discoveryUrl).result =
      .ok ⟨"https://alpha.example.com", "http://keys.test"⟩ := by decide +kernel
  obtain ⟨report, result⟩ := result_bobOver insecureKeys
  obtain ⟨own, all, -⟩ := run_asks_due (e := e) (q := requestOfAlpha) .empty
  have governed := all _ own
  have http := governed.overHttp insecureKeys {} rfl rfl
  have upright : ∀ v w, ¬insecureKeys.Downgrades Http.userAgent v w := by
    rintro v w ⟨-, -, response, answer, onward⟩
    obtain rfl := Except.ok.inj answer
    cases onward
  refine ⟨_, report, own, result, ?_, (http.refused 0 _ (by decide)).2, (http.upright upright).1⟩
  exact (governed.exactly _ result _ 0 _ parse_requestOfAlpha rfl).trans (due_bobOver document)

/-- A web in which every secure address leads to one that is not, where there is a document. -/
def downgrading : Http.Web where
  answer url _ := .ok <|
    if Http.Secure url then ⟨302, [], some "http://alpha.test"⟩
    else ⟨200, Bytes.ofText "[\"https://alpha.example.com\", \"https://keys.test\"]", none⟩
  locate _ location := some location

/-- Held to secure addresses, a pass requests one that is not, and takes what it finds there for the
document of Alpha. -/
theorem run_requests_insecure :
    let e := bobOver downgrading
    ∃ asked report, e.MayAsk (fun _ => e.resolver) {} requestOfAlpha asked ∧
      (e.run {} requestOfAlpha).result = .ok report ∧
      .fetchDocument 0 alpha.provider.discoveryUrl ∈ asked ∧
      (Effect.fetchDocument 0 alpha.provider.discoveryUrl).requested downgrading {} =
        [alpha.provider.discoveryUrl, "http://alpha.test"] ∧
      ¬Http.Secure "http://alpha.test" ∧
      e.resolver.document 0 alpha.provider.discoveryUrl =
        .ok ⟨"https://alpha.example.com", "https://keys.test"⟩ := by
  intro e
  have document : (Http.getDocument downgrading {} alpha.provider.discoveryUrl).result =
      .ok ⟨"https://alpha.example.com", "https://keys.test"⟩ := by decide +kernel
  obtain ⟨report, result⟩ := result_bobOver downgrading
  have own := e.run_mayAsk {} requestOfAlpha
  have governed := own.asksOnlyDue .empty
  refine ⟨_, report, own, result, ?_, by decide +kernel, by decide,
    (document_bobOver ..).trans document⟩
  have whole := governed.exactly _ result _ 0 _ parse_requestOfAlpha rfl
  rw [due_bobOver document] at whole
  have first := List.mem_of_mem_head? (congrArg List.head? whole)
  exact (List.mem_filter.mp first).1

end Verification.Engine

end TokenBinding
