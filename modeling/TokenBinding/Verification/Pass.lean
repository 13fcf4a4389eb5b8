import TokenBinding.Verification.Check
import TokenBinding.Verification.Event

/-!
# Verification passes

A pass takes a bundle as it was received. A text that is no bundle, and a bundle without tokens, end
it at once with an empty report. Otherwise both identities are looked up, the fingerprint of this
side is computed, every token is routed (`route`), and those that could be routed are checked one
after the other.

Only the fingerprint is fatal. A token whose preview or metadata is not to be had is dropped and
counted; a token that is checked is reported, whatever comes of it.

Routing does not wait for the fingerprint. It does wait for the identities: where one of them is
missing, nothing is fetched. Nothing is tried twice.

Beside its result, a pass gives the events that it reported and what it asked of its surroundings
(`Effect`), each in order.
-/

namespace TokenBinding.Verification

/-- What a pass asks of its surroundings. -/
inductive Effect where
  | lookUp (lookup : Lookup)
  | computeFingerprint (producer recipient : PartyIdentity)
  | fetchDocument (token : Nat) (url : String)
  | fetchKeys (token : Nat) (url : String)
  deriving Repr, DecidableEq

namespace Effect

/-- The address that is asked for. -/
def url? : Effect → Option String
  | fetchDocument _ url => some url
  | fetchKeys _ url => some url
  | _ => none

/-- The identity that is looked up. -/
def lookup? : Effect → Option Lookup
  | lookUp lookup => some lookup
  | _ => none

end Effect

/-- What a pass works with, and what its surroundings settle for it. -/
structure Engine where
  digest : Digest
  publicKeyCheck : Token.PublicKeyCheck
  identities : IdentitySource
  fingerprints : FingerprintSource
  resolver : Resolver
  registry : Registry
  leeway : Duration := ExpiryPolicy.defaultLeeway
  /-- Which required claim the check of the token at a place looks for first. No pass can count on
  an order that another pass has met with. -/
  firstSought : (place : Nat) → RequiredClaim := fun _ => .audience

/-- What a pass is about. -/
structure Request where
  wire : String
  peer : PeerRef
  role : Role
  expiry : ExpiryPolicy := .ignore
  deriving Repr, DecidableEq

/-! ## Routing -/

/-- How far a token came on its way to verification. -/
inductive Route where
  | unroutable (index : Nat) (cause : PreviewError)
  | noMetadata (index : Nat) (preview : Preview) (cause : MetadataError)
  | noKeys (index : Nat) (preview : Preview) (metadata : ProviderMetadata) (cause : MetadataError)
  | resolved (token : RoutedToken)
  deriving Repr, DecidableEq

namespace Route

/-- Whether the preview succeeded. -/
def isPreviewed : Route → Bool
  | unroutable _ _ => false
  | _ => true

/-- The token, if nothing that it needs is missing. -/
def resolved? : Route → Option RoutedToken
  | resolved token => some token
  | _ => none

/-- What was asked for on the way. -/
def effects : Route → List Effect
  | unroutable _ _ => []
  | noMetadata index preview _ => [.fetchDocument index preview.provider.discoveryUrl]
  | noKeys index preview metadata _ =>
    [.fetchDocument index preview.provider.discoveryUrl, .fetchKeys index metadata.jwksUri]
  | resolved token =>
    [.fetchDocument token.index token.preview.provider.discoveryUrl,
      .fetchKeys token.index token.metadata.jwksUri]

/-- The report of a token that has no preview. -/
def previewEvent? : Route → Option Event
  | unroutable index cause => some (.unroutable index cause)
  | _ => none

/-- The report of a token for which a fetch failed. -/
def fetchEvent? : Route → Option Event
  | noMetadata index preview cause => some (.noMetadata index preview.provider.displayId cause)
  | noKeys index preview _ cause => some (.noKeys index preview.provider.displayId cause)
  | _ => none

end Route

/-- Routes a token: preview, discovery document, key set. -/
def route (registry : Registry) (resolver : Resolver) (index : Nat) (token : String) : Route :=
  match Preview.ofToken registry token with
  | .error e => .unroutable index e
  | .ok preview =>
    match resolver.document index preview.provider.discoveryUrl with
    | .error e => .noMetadata index preview e
    | .ok metadata =>
      match resolver.keys index metadata.jwksUri with
      | .error e => .noKeys index preview metadata e
      | .ok keys => .resolved ⟨index, token, preview, metadata, keys⟩

/-- Routes each token of a bundle. -/
def routeAll (registry : Registry) (resolver : Resolver) (tokens : List String) : List Route :=
  tokens.mapIdx (route registry resolver)

/-- The events of routing: the tokens that have no preview, then those for which a fetch failed. -/
def routingEvents (routes : List Route) : List Event :=
  routes.filterMap Route.previewEvent? ++
    .resolvingProviders (routes.countP Route.isPreviewed) :: routes.filterMap Route.fetchEvent?

/-! ## Checking -/

/-- A token that was checked. -/
structure Checked where
  token : RoutedToken
  result : Except VerificationFailure Unit

namespace Checked

/-- The outcome of the token. -/
def outcome (c : Checked) : Outcome := c.token.outcome c.result

/-- The report of the token. -/
def event (c : Checked) : Event :=
  match c.result with
  | .ok () => .verified c.token.index c.token.preview.claimedIdentity
  | .error e => .failed c.token.index c.token.preview.claimedIdentity e

end Checked

/-- Checks tokens one after the other, with one binder. -/
def checkAll (s : RoutedToken.Setting) : Binder → List RoutedToken → List Checked × Binder
  | binder, [] => ([], binder)
  | binder, r :: rest =>
    let (result, binder) := RoutedToken.check s binder r
    let (checked, binder) := checkAll s binder rest
    (⟨r, result⟩ :: checked, binder)

/-- The report on a bundle of so many tokens, of which these were checked. -/
def reportOf (tokens : Nat) (checked : List Checked) : Report where
  outcomes := checked.map Checked.outcome
  unevaluated := tokens - checked.length

/-- The events of checking. -/
def checkingEvents (checked : List Checked) (report : Report) : List Event :=
  .verifyingTokens checked.length :: checked.map Checked.event ++
    [.complete report.verified.length report.outcomes.length report.unevaluated, .done]

/-! ## The pass -/

/-- What a pass comes to. -/
structure Pass where
  result : Except VerifyError Report
  events : List Event
  effects : List Effect
  binder : Binder

namespace Engine

/-- A pass over a bundle that has tokens. -/
def runBundle (e : Engine) (binder : Binder) (request : Request) (bundle : Bundle) : Pass :=
  let begun := [.parsingBundle, .boundToFingerprint bundle.tokens.length]
  let lookups := (e.identities.lookups request.peer).map Effect.lookUp
  match e.identities.pair request.peer with
  | .error cause => ⟨.error (.identity cause), begun, lookups, binder⟩
  | .ok (self, peer) =>
    let parties := request.role.order self peer
    let routes := routeAll e.registry e.resolver bundle.tokens
    let events := begun ++ routingEvents routes
    let effects :=
      lookups ++ .computeFingerprint parties.1 parties.2 :: routes.flatMap Route.effects
    match e.fingerprints parties.1 parties.2 with
    | .error cause => ⟨.error (.fingerprintUnavailable cause), events, effects, binder⟩
    | .ok fingerprint =>
      let (checked, binder) := checkAll
        { digest := e.digest, publicKeyCheck := e.publicKeyCheck, fingerprint := fingerprint,
          salt := bundle.salt, expiry := request.expiry, leeway := e.leeway,
          firstSought := e.firstSought }
        binder (routes.filterMap Route.resolved?)
      let report := reportOf bundle.tokens.length checked
      ⟨.ok report, events ++ checkingEvents checked report, effects, binder⟩

/-- A pass over a text received as a bundle. -/
def run (e : Engine) (binder : Binder) (request : Request) : Pass :=
  match Bundle.parse request.wire with
  | .error cause => ⟨.ok {}, [.parsingBundle, .malformedBundle cause, .done], [], binder⟩
  | .ok bundle =>
    if bundle.isEmpty then ⟨.ok {}, [.parsingBundle, .noTokens], [], binder⟩
    else e.runBundle binder request bundle

end Engine

end TokenBinding.Verification
