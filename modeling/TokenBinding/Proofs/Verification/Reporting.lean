import Mathlib.Data.List.Basic
import TokenBinding.Proofs.Verification.Schedule

/-!
# The orders in which a pass may report

A token that has no preview is reported before anything is fetched, in its turn. A token for which a
fetch fails is reported when the failure arrives, and that may be in any order. Which tokens these
are does not depend on the order: when all tokens are settled, what was told on the way is what
their routes have to tell, in some order (`Told.perm`), and the routes are those of the tokens at
their places (`Told.map_index`).

`Engine.MayReport` are the results of a pass with its events, in the orders that this leaves open. A
pass whose fingerprint is not to be had is given up before its tokens are routed or at any point of
the way. The order in which a pass is written down is one of them (`run_mayReport`).
-/

namespace TokenBinding.Verification

/-- The place of the token. -/
def Route.index : Route → Nat
  | unroutable index _ => index
  | noMetadata index _ _ => index
  | noKeys index _ _ _ => index
  | resolved token => token.index

/-- What is reported of a token before anything is fetched. -/
def previewEvent? (registry : Registry) (i : Nat) (token : String) : Option Event :=
  match Preview.ofToken registry token with
  | .error cause => some (.unroutable i cause)
  | .ok _ => none

/-- The events of routing: the tokens that have no preview, then what was told of the others. -/
def routingLog (registry : Registry) (tokens : List String) (told : List Event) : List Event :=
  (tokens.mapIdx (previewEvent? registry)).filterMap id ++
    .resolvingProviders (tokens.countP fun t => (Preview.ofToken registry t).isOk) :: told

variable {registry : Registry} {resolver : Resolver} {answers : List Effect → Resolver}
  {tokens : List String} {stages : List Stage} {routes : List Route} {asked : List Effect}
  {told : List Event} {i : Nat} {token : String}

theorem isPreviewed_route :
    (route registry resolver i token).isPreviewed = (Preview.ofToken registry token).isOk := by
  unfold route
  cases Preview.ofToken registry token with
  | error cause => rfl
  | ok preview =>
    cases document : resolver.document i preview.provider.discoveryUrl with
    | error cause => simp only [document, Route.isPreviewed, Except.isOk, Except.toBool]
    | ok metadata =>
      cases answer : resolver.keys i metadata.jwksUri <;>
        simp only [document, answer, Route.isPreviewed, Except.isOk, Except.toBool]

/-! ## Tokens on their way -/

namespace Stage

/-- The report of a token that has no preview. -/
def previewEvent? : Stage → Option Event
  | .previewed _ => none
  | .asked _ => none
  | .documented _ _ => none
  | .settled route => route.previewEvent?

/-- A token that is settled is settled at its place. -/
def IsAt (i : Nat) : Stage → Prop
  | .previewed _ => True
  | .asked _ => True
  | .documented _ _ => True
  | .settled route => route.index = i

/-- At its first stage a token has told nothing but that it was dropped, if it was, and what it
tells is told of itself. -/
theorem start_tells : (start registry i token).reports = [] ∧ (start registry i token).IsAt i ∧
    (start registry i token).previewEvent? = Verification.previewEvent? registry i token := by
  unfold start Verification.previewEvent?
  cases Preview.ofToken registry token with
  | error cause => exact ⟨rfl, rfl, rfl⟩
  | ok preview => exact ⟨rfl, trivial, rfl⟩

/-- A token that makes a step had nothing to report so far, and stays at its place. A token reports
once at most, when it is settled. -/
theorem next?_tells {s s' : Stage} {effects : List Effect}
    (h : s.next? resolver i token = some (effects, s')) :
    s.reports = [] ∧ s'.IsAt i ∧ s'.previewEvent? = s.previewEvent? := by
  cases s with
  | previewed preview =>
    cases h
    exact ⟨rfl, trivial, rfl⟩
  | asked preview =>
    simp only [next?] at h
    split at h
    · cases h
      exact ⟨rfl, rfl, rfl⟩
    · cases h
      exact ⟨rfl, trivial, rfl⟩
  | documented preview metadata =>
    simp only [next?] at h
    split at h
    · cases h
      exact ⟨rfl, rfl, rfl⟩
    · cases h
      exact ⟨rfl, rfl, rfl⟩
  | settled route => cases h

end Stage

/-- Where an element that gives nothing is replaced, what the new one gives is added. -/
theorem perm_flatMap_set {α β : Type} {f : α → List β} {xs : List α} {i : Nat} {x y : α}
    (here : xs[i]? = some x) (none : f x = []) :
    ((xs.set i y).flatMap f).Perm (xs.flatMap f ++ f y) := by
  induction xs generalizing i with
  | nil => cases here
  | cons z xs ih =>
    cases i with
    | zero =>
      obtain rfl : z = x := Option.some.inj here
      rw [List.set_cons_zero, List.flatMap_cons, List.flatMap_cons, none, List.nil_append]
      exact List.perm_append_comm
    | succ i =>
      rw [List.set_cons_succ, List.flatMap_cons, List.flatMap_cons, List.append_assoc]
      exact (ih here).append_left _

namespace Told

/-- There is a stage for each token, at its place. Steps replace stages, and never add or remove
one. -/
theorem stage_at (h : Told registry answers tokens stages asked told) :
    stages.length = tokens.length ∧ ∀ i token s, tokens[i]? = some token → stages[i]? = some s →
      s.IsAt i ∧ s.previewEvent? = previewEvent? registry i token := by
  induction h with
  | start =>
    refine ⟨List.length_mapIdx, fun i token s at_i here => ?_⟩
    rw [List.getElem?_mapIdx, at_i, Option.map_some] at here
    obtain rfl := Option.some.inj here
    exact Stage.start_tells.2
  | @step stages asked effects told j token' t t' _ at_j stage move ih =>
    obtain ⟨length, each⟩ := ih
    obtain ⟨-, place, preview⟩ := Stage.next?_tells move
    refine ⟨List.length_set.trans length, fun i token s at_i here => ?_⟩
    by_cases same : j = i
    · subst same
      have bound : j < stages.length := (List.getElem?_eq_some_iff.mp stage).1
      rw [List.getElem?_set_self bound] at here
      obtain rfl := Option.some.inj here
      exact ⟨place, preview.trans (each j token t at_i stage).2⟩
    · rw [List.getElem?_set_ne same] at here
      exact each i token s at_i here

/-- What was told is what the tokens have to report at their stages, in some order. -/
theorem perm (h : Told registry answers tokens stages asked told) :
    told.Perm (stages.flatMap Stage.reports) := by
  induction h with
  | start =>
    have silent : (tokens.mapIdx (Stage.start registry)).flatMap Stage.reports = [] := by
      refine List.flatMap_eq_nil_iff.mpr fun s mem => ?_
      obtain ⟨i, bound, rfl⟩ := List.mem_mapIdx.mp mem
      exact Stage.start_tells.1
    rw [silent]
  | step _ _ stage move ih =>
    have silent := (Stage.next?_tells move).1
    exact (ih.append_right _).trans (perm_flatMap_set stage silent).symm

/-- When all tokens are settled, what the place of a token and its preview decide is the same for
the route of the token. -/
theorem map_routes (h : Told registry answers tokens (routes.map .settled) asked told) {β : Type}
    {f : Route → β} {g : Nat → String → β}
    (each : ∀ i token r, r.index = i → r.previewEvent? = previewEvent? registry i token →
      f r = g i token) : routes.map f = tokens.mapIdx g := by
  obtain ⟨length, stage_at⟩ := h.stage_at
  rw [List.length_map] at length
  apply List.ext_getElem?
  intro i
  rw [List.getElem?_map, List.getElem?_mapIdx]
  cases at_i : tokens[i]? with
  | none =>
    have beyond : routes.length ≤ i := by
      rw [length]
      exact List.getElem?_eq_none_iff.mp at_i
    rw [List.getElem?_eq_none beyond]
    rfl
  | some token =>
    have bound : i < routes.length := by
      rw [length]
      exact (List.getElem?_eq_some_iff.mp at_i).1
    have stage : (routes.map Stage.settled)[i]? = some (.settled routes[i]) := by
      rw [List.getElem?_map, List.getElem?_eq_getElem bound, Option.map_some]
    obtain ⟨place, preview⟩ := stage_at i token _ at_i stage
    rw [List.getElem?_eq_getElem bound, Option.map_some, Option.map_some,
      each i token routes[i] place preview]

/-- The places of the routes are those of the bundle. -/
theorem map_index (h : Told registry answers tokens (routes.map .settled) asked told) :
    routes.map Route.index = List.range tokens.length := by
  have places : routes.map Route.index = tokens.mapIdx fun i _ => i :=
    h.map_routes fun _ _ _ place _ => place
  rw [places]
  apply List.ext_getElem
  · rw [List.length_mapIdx, List.length_range]
  · intro i _ _
    rw [List.getElem_mapIdx, List.getElem_range]

/-- The tokens without a preview are those that were reported at the start. -/
theorem map_previewEvent? (h : Told registry answers tokens (routes.map .settled) asked told) :
    routes.map Route.previewEvent? = tokens.mapIdx (previewEvent? registry) :=
  h.map_routes fun _ _ _ _ preview => preview

/-- The tokens that were dropped at their preview are told in the order of the bundle, whatever the
order of the answers. -/
theorem filterMap_previewEvent?
    (h : Told registry answers tokens (routes.map .settled) asked told) :
    routes.filterMap Route.previewEvent? =
      (tokens.mapIdx (previewEvent? registry)).filterMap id := by
  rw [← h.map_previewEvent?, List.filterMap_map]
  rfl

/-- When all tokens are settled, what was told is what their routes have to tell. -/
theorem perm_filterMap_fetchEvent?
    (h : Told registry answers tokens (routes.map .settled) asked told) :
    told.Perm (routes.filterMap Route.fetchEvent?) := by
  have whole : (routes.map Stage.settled).flatMap Stage.reports =
      routes.filterMap Route.fetchEvent? := by
    rw [List.flatMap_map, List.filterMap_eq_flatMap_toList]
    rfl
  rw [← whole]
  exact h.perm

end Told

/-- The events of routing in the order of the tokens. -/
theorem routingEvents_routeAll (registry : Registry) (resolver : Resolver) (tokens : List String) :
    routingEvents (routeAll registry resolver tokens) =
      routingLog registry tokens
        ((routeAll registry resolver tokens).filterMap Route.fetchEvent?) := by
  have flags : (routeAll registry resolver tokens).map Route.isPreviewed =
      tokens.map fun t => (Preview.ofToken registry t).isOk := by
    apply List.ext_getElem?
    intro i
    rw [routeAll, List.getElem?_map, List.getElem?_mapIdx, List.getElem?_map, Option.map_map]
    exact congrArg (Option.map · tokens[i]?) (funext fun t => isPreviewed_route)
  have routed : (routeAll registry resolver tokens).countP Route.isPreviewed =
      tokens.countP fun t => (Preview.ofToken registry t).isOk := by
    have same := congrArg (List.countP id) flags
    rwa [List.countP_map, List.countP_map] at same
  rw [routingEvents, routingLog, routed,
    (Told.settle_all registry resolver tokens).filterMap_previewEvent?]

/-! ## The pass -/

namespace Engine

/-- What a pass comes to and what it reports, when the requests for its tokens are answered like
this, in an order in which the answers may arrive. -/
inductive MayReport (e : Engine) (answers : List Effect → Resolver) (b : Binder) (q : Request) :
    Except VerifyError Report → List Event → Prop
  | malformed {cause : BundleError} (parsed : Bundle.parse q.wire = .error cause) :
      MayReport e answers b q (.ok {}) [.parsingBundle, .malformedBundle cause, .done]
  | noTokens {bundle : Bundle} (parsed : Bundle.parse q.wire = .ok bundle)
      (none : bundle.tokens = []) : MayReport e answers b q (.ok {}) [.parsingBundle, .noTokens]
  /-- The fingerprint was found missing before the tokens were looked at. -/
  | unrouted {bundle : Bundle} {cause : VerifyError} (parsed : Bundle.parse q.wire = .ok bundle)
      (tokens : bundle.tokens ≠ []) (missing : e.localFingerprint q.peer q.role = .error cause) :
      MayReport e answers b q (.error cause)
        [.parsingBundle, .boundToFingerprint bundle.tokens.length]
  /-- The fingerprint was found missing while tokens were on their way, or after. -/
  | givenUp {bundle : Bundle} {cause : VerifyError} {stages : List Stage} {asked : List Effect}
      {told : List Event} (parsed : Bundle.parse q.wire = .ok bundle)
      (tokens : bundle.tokens ≠ []) (missing : e.localFingerprint q.peer q.role = .error cause)
      (way : Told e.registry answers bundle.tokens stages asked told) :
      MayReport e answers b q (.error cause)
        ([.parsingBundle, .boundToFingerprint bundle.tokens.length] ++
          routingLog e.registry bundle.tokens told)
  | complete {bundle : Bundle} {f : Fingerprint} {routes : List Route} {asked : List Effect}
      {told : List Event} {checked : List Checked} {report : Report}
      (parsed : Bundle.parse q.wire = .ok bundle) (tokens : bundle.tokens ≠ [])
      (print : e.localFingerprint q.peer q.role = .ok f)
      (way : Told e.registry answers bundle.tokens (routes.map .settled) asked told)
      (checks : checked =
        (checkAll (e.setting q bundle.salt f) b (routes.filterMap Route.resolved?)).1)
      (reports : report = reportOf bundle.tokens.length checked) :
      MayReport e answers b q (.ok report)
        ([.parsingBundle, .boundToFingerprint bundle.tokens.length] ++
          routingLog e.registry bundle.tokens told ++ checkingEvents checked report)

/-- The pass as it is written down is one of those. It settles the tokens in the order of the
bundle, each all of its way before the next begins. -/
theorem run_mayReport (e : Engine) (b : Binder) (q : Request) :
    e.MayReport (fun _ => e.resolver) b q (e.run b q).result (e.run b q).events := by
  cases parsed : Bundle.parse q.wire with
  | error cause =>
    simp only [run, parsed]
    exact .malformed parsed
  | ok bundle =>
    by_cases none : bundle.tokens = []
    · have empty : bundle.isEmpty = true := List.isEmpty_iff.mpr none
      simp only [run, parsed, empty, if_true]
      exact .noTokens parsed none
    · have way := Told.settle_all e.registry e.resolver bundle.tokens
      rw [run_eq_runBundle parsed none]
      cases pair : e.identities.pair q.peer with
      | error cause =>
        have missing : e.localFingerprint q.peer q.role = .error (.identity cause) := by
          simp only [localFingerprint, pair]
        simp only [runBundle, pair]
        exact .unrouted parsed none missing
      | ok both =>
        obtain ⟨self, other⟩ := both
        cases print : e.fingerprints (q.role.order self other).1 (q.role.order self other).2 with
        | error cause =>
          have missing : e.localFingerprint q.peer q.role =
              .error (.fingerprintUnavailable cause) := by
            simp only [localFingerprint, pair, print]
          simp only [runBundle, pair, print, routingEvents_routeAll]
          exact .givenUp parsed none missing way
        | ok f =>
          have found : e.localFingerprint q.peer q.role = .ok f := by
            simp only [localFingerprint, pair, print]
          simp only [runBundle, pair, print, routingEvents_routeAll]
          exact .complete parsed none found way rfl rfl

end Engine

end TokenBinding.Verification
