import TokenBinding.Proofs.Verification.Verdict

/-!
# The orders in which a pass may ask

The tokens of a bundle are routed side by side: whose answer arrives first goes on first, so the
requests of different tokens may come in any order. A pass whose fingerprint is not to be had is
given up while tokens are still on their way.

`Stage` says how far a token is on its way, and `Stage.next?` what it does next. `Reached` is what
may have happened to all of them after some steps, in any order, with answers that may depend on
what was asked before; `Told` adds what was reported meanwhile. `Engine.MayAsk` are the requests of
a pass in the orders that this leaves open, cut off anywhere if the pass comes to no report.

Over a resolver, each token keeps to its own way, whatever the others do: it asks for what `route`
asks for, in that order, and in a pass that comes to a report it asks for all of it
(`Reached.requests`). The order in which a pass is written down, one token after the other, is one
of the orders (`run_mayAsk`).

What it does not establish. Each answer arrives in one step or not at all, so nothing is said about
time, nor about a fetch that is cut off in the middle.
-/

namespace TokenBinding.Verification

/-- The token that something is fetched for. -/
def Effect.token? : Effect → Option Nat
  | fetchDocument token _ => some token
  | fetchKeys token _ => some token
  | _ => none

/-- How far a token is on its way. -/
inductive Stage where
  | previewed (preview : Preview)
  /-- The document was asked for. -/
  | asked (preview : Preview)
  /-- The document arrived, and the key set was asked for. -/
  | documented (preview : Preview) (metadata : ProviderMetadata)
  | settled (route : Route)

namespace Stage

variable {registry : Registry} {resolver : Resolver} {i : Nat} {token : String}

/-- Where a token begins. -/
def start (registry : Registry) (i : Nat) (token : String) : Stage :=
  match Preview.ofToken registry token with
  | .error e => .settled (.unroutable i e)
  | .ok preview => .previewed preview

/-- The next step of a token, with what it asks for. -/
def next? (resolver : Resolver) (i : Nat) (token : String) : Stage → Option (List Effect × Stage)
  | previewed preview =>
    some ([.fetchDocument i preview.provider.discoveryUrl], .asked preview)
  | asked preview =>
    match resolver.document i preview.provider.discoveryUrl with
    | .error e => some ([], .settled (.noMetadata i preview e))
    | .ok metadata => some ([.fetchKeys i metadata.jwksUri], .documented preview metadata)
  | documented preview metadata =>
    match resolver.keys i metadata.jwksUri with
    | .error e => some ([], .settled (.noKeys i preview metadata e))
    | .ok keys => some ([], .settled (.resolved ⟨i, token, preview, metadata, keys⟩))
  | settled _ => none

/-- What a token has asked for so far. -/
def requests (i : Nat) : Stage → List Effect
  | previewed _ => []
  | asked preview => [.fetchDocument i preview.provider.discoveryUrl]
  | documented preview metadata =>
    [.fetchDocument i preview.provider.discoveryUrl, .fetchKeys i metadata.jwksUri]
  | settled route => route.effects

/-- What a token reports when it comes to this stage: it is settled for lack of an answer. -/
def reports : Stage → List Event
  | previewed _ => []
  | asked _ => []
  | documented _ _ => []
  | settled route => route.fetchEvent?.toList

/-- Where the way ends for a token whose document arrived. -/
def afterDocument (resolver : Resolver) (i : Nat) (token : String) (preview : Preview)
    (metadata : ProviderMetadata) : Route :=
  match resolver.keys i metadata.jwksUri with
  | .error e => .noKeys i preview metadata e
  | .ok keys => .resolved ⟨i, token, preview, metadata, keys⟩

/-- Where the way ends for a token that has a preview. -/
def afterPreview (resolver : Resolver) (i : Nat) (token : String) (preview : Preview) : Route :=
  match resolver.document i preview.provider.discoveryUrl with
  | .error e => .noMetadata i preview e
  | .ok metadata => afterDocument resolver i token preview metadata

/-- Where the way of a token ends. -/
def outlook (resolver : Resolver) (i : Nat) (token : String) : Stage → Route
  | previewed preview => afterPreview resolver i token preview
  | asked preview => afterPreview resolver i token preview
  | documented preview metadata => afterDocument resolver i token preview metadata
  | settled route => route

/-- The token has no step left. -/
def IsSettled (s : Stage) : Prop := ∃ route, s = .settled route

/-- A token that nothing was asked for yet ends where its route ends: the first stage looks forward
to all that routing will do. -/
theorem outlook_start : (start registry i token).outlook resolver i token =
    route registry resolver i token := by
  unfold start route
  cases Preview.ofToken registry token <;> rfl

theorem requests_start : (start registry i token).requests i = [] := by
  unfold start
  cases Preview.ofToken registry token <;> rfl

/-- A step does not change where the way ends, and what it asks for is added to what was asked for
already, all of it for this token. -/
theorem next?_spec {s s' : Stage} {effects : List Effect}
    (h : s.next? resolver i token = some (effects, s')) :
    s'.outlook resolver i token = s.outlook resolver i token ∧
      s'.requests i = s.requests i ++ effects ∧ ∀ x ∈ effects, x.token? = some i := by
  cases s with
  | previewed preview =>
    cases h
    exact ⟨rfl, rfl, List.forall_mem_singleton.mpr rfl⟩
  | asked preview =>
    cases document : resolver.document i preview.provider.discoveryUrl with
    | error cause =>
      simp only [next?, document] at h
      cases h
      exact ⟨by simp only [outlook, afterPreview, document], rfl, List.forall_mem_nil _⟩
    | ok metadata =>
      simp only [next?, document] at h
      cases h
      exact ⟨by simp only [outlook, afterPreview, document], rfl,
        List.forall_mem_singleton.mpr rfl⟩
  | documented preview metadata =>
    cases answer : resolver.keys i metadata.jwksUri with
    | error cause =>
      simp only [next?, answer] at h
      cases h
      exact ⟨by simp only [outlook, afterDocument, answer], rfl, List.forall_mem_nil _⟩
    | ok keys =>
      simp only [next?, answer] at h
      cases h
      exact ⟨by simp only [outlook, afterDocument, answer], rfl, List.forall_mem_nil _⟩
  | settled route => cases h

/-- The requests of a token whose document arrived do not depend on what comes of the second. -/
theorem effects_afterDocument (preview : Preview) (metadata : ProviderMetadata) :
    (afterDocument resolver i token preview metadata).effects =
      [.fetchDocument i preview.provider.discoveryUrl, .fetchKeys i metadata.jwksUri] := by
  unfold afterDocument
  cases resolver.keys i metadata.jwksUri <;> rfl

/-- What a token has asked for is the beginning of what it will have asked for in the end. -/
theorem requests_prefix (s : Stage) : s.requests i <+: (s.outlook resolver i token).effects := by
  cases s with
  | previewed preview => exact List.nil_prefix
  | asked preview =>
    cases document : resolver.document i preview.provider.discoveryUrl with
    | error cause => simp only [outlook, afterPreview, document]; exact List.prefix_rfl
    | ok metadata =>
      simp only [outlook, afterPreview, document, effects_afterDocument]
      exact List.prefix_append [_] [_]
  | documented preview metadata =>
    simp only [outlook, effects_afterDocument]
    exact List.prefix_rfl
  | settled route => exact List.prefix_rfl

end Stage

/-- What may have happened on the way of these tokens, and the requests so far. How a request is
answered may depend on all the requests before. -/
inductive Reached (registry : Registry) (answers : List Effect → Resolver) (tokens : List String) :
    List Stage → List Effect → Prop
  | start : Reached registry answers tokens (tokens.mapIdx (Stage.start registry)) []
  | step {stages : List Stage} {asked effects : List Effect} {i : Nat} {token : String}
      {s s' : Stage} (before : Reached registry answers tokens stages asked)
      (at_i : tokens[i]? = some token) (stage : stages[i]? = some s)
      (move : s.next? (answers asked) i token = some (effects, s')) :
      Reached registry answers tokens (stages.set i s') (asked ++ effects)

/-- What may have happened, the requests so far, and what was reported meanwhile of tokens for which
a fetch failed. -/
inductive Told (registry : Registry) (answers : List Effect → Resolver) (tokens : List String) :
    List Stage → List Effect → List Event → Prop
  | start : Told registry answers tokens (tokens.mapIdx (Stage.start registry)) [] []
  | step {stages : List Stage} {asked effects : List Effect} {told : List Event} {i : Nat}
      {token : String} {s s' : Stage} (before : Told registry answers tokens stages asked told)
      (at_i : tokens[i]? = some token) (stage : stages[i]? = some s)
      (move : s.next? (answers asked) i token = some (effects, s')) :
      Told registry answers tokens (stages.set i s') (asked ++ effects) (told ++ s'.reports)

/-- What is told in a pass can be forgotten: the stages and the requests are reached all the
same. -/
theorem Told.reached {registry : Registry} {answers : List Effect → Resolver}
    {tokens : List String} {stages : List Stage} {asked : List Effect} {told : List Event}
    (h : Told registry answers tokens stages asked told) :
    Reached registry answers tokens stages asked := by
  induction h with
  | start => exact .start
  | step _ at_i stage move ih => exact ih.step at_i stage move

namespace Reached

variable {registry : Registry} {resolver : Resolver} {tokens : List String} {stages : List Stage}
  {asked : List Effect}

/-- Whatever the other tokens did, a token is on its way to the end that `route` finds for it, and
the requests that were made for it are those of its stage. -/
theorem stage_of_token (h : Reached registry (fun _ => resolver) tokens stages asked) {i : Nat}
    {token : String} (at_i : tokens[i]? = some token) :
    ∃ s, stages[i]? = some s ∧
      s.outlook resolver i token = route registry resolver i token ∧
      asked.filter (·.token? = some i) = s.requests i := by
  induction h with
  | start =>
    refine ⟨Stage.start registry i token, ?_, Stage.outlook_start, Stage.requests_start.symm⟩
    rw [List.getElem?_mapIdx, at_i, Option.map_some]
  | @step stages asked effects j token' s s' _ at_j stage move ih =>
    obtain ⟨outlook, requests, own⟩ := Stage.next?_spec move
    obtain ⟨t, here, way, soFar⟩ := ih
    by_cases same : j = i
    · subst same
      obtain rfl : token = token' := Option.some.inj (at_i.symm.trans at_j)
      obtain rfl : t = s := Option.some.inj (here.symm.trans stage)
      have bound : j < stages.length := (List.getElem?_eq_some_iff.mp stage).1
      have mine : effects.filter (·.token? = some j) = effects :=
        List.filter_eq_self.mpr fun x mem => decide_eq_true (own x mem)
      refine ⟨s', List.getElem?_set_self bound, outlook.trans way, ?_⟩
      rw [List.filter_append, soFar, mine, requests]
    · have others : effects.filter (·.token? = some i) = [] := by
        refine List.filter_eq_nil_iff.mpr fun x mem => ?_
        rw [own x mem, decide_eq_true_eq, Option.some.injEq]
        exact same
      refine ⟨t, (List.getElem?_set_ne same).trans here, way, ?_⟩
      rw [List.filter_append, soFar, others, List.append_nil]

/-- Every request is made for one of the tokens. -/
theorem token_of_mem (h : Reached registry (fun _ => resolver) tokens stages asked) :
    ∀ x ∈ asked, ∃ i token, tokens[i]? = some token ∧ x.token? = some i := by
  induction h with
  | start => exact nofun
  | @step stages asked effects i token s s' _ at_i _ move ih =>
    obtain ⟨-, -, own⟩ := Stage.next?_spec move
    intro x mem
    rcases List.mem_append.mp mem with old | new
    · exact ih x old
    · exact ⟨i, token, at_i, own x new⟩

/-- The requests for a token are the beginning of what `route` asks for, and all of it once the
token is settled. -/
theorem requests (h : Reached registry (fun _ => resolver) tokens stages asked) {i : Nat}
    {token : String} (at_i : tokens[i]? = some token) :
    asked.filter (·.token? = some i) <+: (route registry resolver i token).effects ∧
      ((∀ s ∈ stages, s.IsSettled) →
        asked.filter (·.token? = some i) = (route registry resolver i token).effects) := by
  obtain ⟨s, here, way, soFar⟩ := h.stage_of_token at_i
  rw [soFar, ← way]
  refine ⟨s.requests_prefix, fun settled => ?_⟩
  obtain ⟨route, rfl⟩ := settled s (List.mem_of_getElem? here)
  rfl

end Reached

/-! ## One token after the other -/

namespace Told

variable {registry : Registry} {resolver : Resolver} {tokens : List String} {stages : List Stage}
  {asked : List Effect} {told : List Event}

section Settle

variable {i : Nat} {token : String} {preview : Preview}

/-- A token whose document is there can be settled by its key set. The request for that was made
when the document came, so nothing is asked. -/
theorem settle_documented {metadata : ProviderMetadata}
    (h : Told registry (fun _ => resolver) tokens stages asked told)
    (at_i : tokens[i]? = some token)
    (stage : stages[i]? = some (.documented preview metadata)) :
    Told registry (fun _ => resolver) tokens
      (stages.set i (.settled (Stage.afterDocument resolver i token preview metadata))) asked
      (told ++ (Stage.afterDocument resolver i token preview metadata).fetchEvent?.toList) := by
  have move : (Stage.documented preview metadata).next? resolver i token =
      some ([], .settled (Stage.afterDocument resolver i token preview metadata)) := by
    cases answer : resolver.keys i metadata.jwksUri <;>
      simp only [Stage.next?, Stage.afterDocument, answer]
  have settled := h.step at_i stage move
  rwa [List.append_nil] at settled

/-- A token whose document was asked for can be settled, in one step or two, as the document comes
or not. What is asked meanwhile is the rest of what its route asks. -/
theorem settle_asked (h : Told registry (fun _ => resolver) tokens stages asked told)
    (at_i : tokens[i]? = some token) (stage : stages[i]? = some (.asked preview)) :
    ∃ rest, Told registry (fun _ => resolver) tokens
        (stages.set i (.settled (Stage.afterPreview resolver i token preview))) (asked ++ rest)
        (told ++ (Stage.afterPreview resolver i token preview).fetchEvent?.toList) ∧
      .fetchDocument i preview.provider.discoveryUrl :: rest =
        (Stage.afterPreview resolver i token preview).effects := by
  have bound : i < stages.length := (List.getElem?_eq_some_iff.mp stage).1
  cases document : resolver.document i preview.provider.discoveryUrl with
  | error cause =>
    have move : (Stage.asked preview).next? resolver i token =
        some ([], .settled (.noMetadata i preview cause)) := by simp only [Stage.next?, document]
    have settled := h.step at_i stage move
    simp only [Stage.afterPreview, document]
    exact ⟨[], settled, rfl⟩
  | ok metadata =>
    have move : (Stage.asked preview).next? resolver i token =
        some ([.fetchKeys i metadata.jwksUri], .documented preview metadata) := by
      simp only [Stage.next?, document]
    have arrived := h.step at_i stage move
    have settled := arrived.settle_documented at_i (List.getElem?_set_self bound)
    rw [List.set_set, Stage.reports, List.append_nil] at settled
    simp only [Stage.afterPreview, document]
    exact ⟨_, settled, (Stage.effects_afterDocument preview metadata).symm⟩

/-- A token that has not begun can go all of its way at once. The other tokens stay where they
are. -/
theorem settle (h : Told registry (fun _ => resolver) tokens stages asked told)
    (at_i : tokens[i]? = some token) (stage : stages[i]? = some (Stage.start registry i token)) :
    Told registry (fun _ => resolver) tokens
      (stages.set i (.settled (route registry resolver i token)))
      (asked ++ (route registry resolver i token).effects)
      (told ++ (route registry resolver i token).fetchEvent?.toList) := by
  have bound : i < stages.length := (List.getElem?_eq_some_iff.mp stage).1
  cases found : Preview.ofToken registry token with
  | error cause =>
    have start : Stage.start registry i token = .settled (route registry resolver i token) := by
      simp only [Stage.start, route, found]
    have same : stages.set i (.settled (route registry resolver i token)) = stages := by
      rw [start] at stage
      obtain ⟨_, here⟩ := List.getElem?_eq_some_iff.mp stage
      rw [← here, List.set_getElem_self]
    have silent : (route registry resolver i token).effects = [] ∧
        (route registry resolver i token).fetchEvent?.toList = [] := by
      simp only [route, found, Route.effects, Route.fetchEvent?, Option.toList_none, and_self]
    rw [same, silent.1, silent.2, List.append_nil, List.append_nil]
    exact h
  | ok preview =>
    have start : Stage.start registry i token = .previewed preview := by
      simp only [Stage.start, found]
    have way : route registry resolver i token = Stage.afterPreview resolver i token preview := by
      rw [← Stage.outlook_start, start, Stage.outlook]
    have begun := h.step at_i (start ▸ stage) rfl
    obtain ⟨rest, settled, whole⟩ := begun.settle_asked at_i (List.getElem?_set_self bound)
    rw [List.set_set, List.append_assoc, Stage.reports, List.append_nil] at settled
    rw [way, ← whole]
    exact settled

end Settle

/-- The stages when the first `n` tokens are settled and the others have not begun. -/
def row (registry : Registry) (resolver : Resolver) (tokens : List String) (n : Nat) : List Stage :=
  tokens.mapIdx fun i token =>
    if i < n then .settled (route registry resolver i token) else .start registry i token

/-- Settling the first token of a row that is not settled gives the next row. -/
theorem row_succ {n : Nat} {token : String} (at_n : tokens[n]? = some token) :
    (row registry resolver tokens n).set n (.settled (route registry resolver n token)) =
      row registry resolver tokens (n + 1) := by
  refine List.ext_getElem? fun i => ?_
  have bound : n < (row registry resolver tokens n).length := by
    rw [row, List.length_mapIdx]
    exact (List.getElem?_eq_some_iff.mp at_n).1
  rcases Nat.lt_trichotomy i n with before | rfl | behind
  · rw [List.getElem?_set_ne (Nat.ne_of_gt before)]
    simp only [row, List.getElem?_mapIdx, before, Nat.lt_succ_of_lt before, if_true]
  · rw [List.getElem?_set_self bound]
    simp only [row, List.getElem?_mapIdx, at_n, Option.map_some, Nat.lt_succ_self, if_true]
  · rw [List.getElem?_set_ne (Nat.ne_of_lt behind)]
    have notYet : ¬i < n ∧ ¬i < n + 1 := ⟨Nat.lt_asymm behind, Nat.not_lt_of_le behind⟩
    simp only [row, List.getElem?_mapIdx, notYet, if_false]

theorem row_length : row registry resolver tokens tokens.length =
    (routeAll registry resolver tokens).map .settled := by
  refine List.ext_getElem? fun i => ?_
  rw [row, routeAll, List.getElem?_map, List.getElem?_mapIdx, List.getElem?_mapIdx]
  cases at_i : tokens[i]? with
  | none => rfl
  | some token =>
    have bound : i < tokens.length := (List.getElem?_eq_some_iff.mp at_i).1
    simp only [Option.map_some, if_pos bound]

/-- The tokens can be settled in their order. By induction on how many have been: the row grows by
one, and so does what was asked. -/
theorem settle_first (registry : Registry) (resolver : Resolver) (tokens : List String) {n : Nat}
    (h : n ≤ tokens.length) :
    Told registry (fun _ => resolver) tokens (row registry resolver tokens n)
      ((routeAll registry resolver (tokens.take n)).flatMap Route.effects)
      ((routeAll registry resolver (tokens.take n)).filterMap Route.fetchEvent?) := by
  induction n with
  | zero =>
    have none : row registry resolver tokens 0 = tokens.mapIdx (Stage.start registry) := by
      simp only [row, Nat.not_lt_zero, if_false]
    rw [none]
    exact .start
  | succ n ih =>
    have at_n : tokens[n]? = some tokens[n] := List.getElem?_eq_getElem h
    have stage : (row registry resolver tokens n)[n]? = some (.start registry n tokens[n]) := by
      simp only [row, List.getElem?_mapIdx, at_n, Option.map_some, Nat.lt_irrefl, if_false]
    have next := (ih (Nat.le_of_succ_le h)).settle at_n stage
    have length : (tokens.take n).length = n := List.length_take_of_le (Nat.le_of_succ_le h)
    have whole : routeAll registry resolver (tokens.take (n + 1)) =
        routeAll registry resolver (tokens.take n) ++ [route registry resolver n tokens[n]] := by
      rw [← List.take_append_getElem h, routeAll, routeAll, List.mapIdx_append, length,
        List.mapIdx_singleton, Nat.zero_add]
    have last : ∀ r : Route, [r].filterMap Route.fetchEvent? = r.fetchEvent?.toList := by
      intro r
      cases told : r.fetchEvent? <;> simp only [List.filterMap_cons, told, List.filterMap_nil,
        Option.toList_none, Option.toList_some]
    rw [row_succ at_n] at next
    rw [whole, List.flatMap_append, List.flatMap_singleton, List.filterMap_append, last]
    exact next

/-- So all of them can be settled, with the requests and reports of one after those of the other. -/
theorem settle_all (registry : Registry) (resolver : Resolver) (tokens : List String) :
    Told registry (fun _ => resolver) tokens ((routeAll registry resolver tokens).map .settled)
      ((routeAll registry resolver tokens).flatMap Route.effects)
      ((routeAll registry resolver tokens).filterMap Route.fetchEvent?) := by
  have all := settle_first registry resolver tokens (Nat.le_refl _)
  rwa [List.take_length, row_length] at all

end Told

namespace Engine

variable {e : Engine} {b : Binder} {q : Request}

/-- The requests that a pass may have made when they are answered like this, in an order in which it
may have made them. A pass that comes to a report has settled all tokens; one that is given up has
come as far as it has. -/
structure MayAsk (e : Engine) (answers : List Effect → Resolver) (b : Binder) (q : Request)
    (asked : List Effect) : Prop where
  malformed : ∀ cause, Bundle.parse q.wire = .error cause → asked = []
  reached : ∀ bundle, Bundle.parse q.wire = .ok bundle →
    ∃ stages, Reached e.registry answers bundle.tokens stages asked ∧
      ((∃ report, (e.run b q).result = .ok report) → ∀ s ∈ stages, s.IsSettled)

/-- All that a route asks for is asked for its own token. -/
theorem token?_of_mem_effects {registry : Registry} {resolver : Resolver} {i : Nat}
    {token : String} :
    ∀ x ∈ (route registry resolver i token).effects, x.token? = some i := by
  unfold route
  split
  · exact nofun
  · split
    · exact List.forall_mem_singleton.mpr rfl
    · split <;> exact List.forall_mem_cons.mpr ⟨rfl, List.forall_mem_singleton.mpr rfl⟩

/-- A pass over a bundle asks for nothing if an identity is missing, and otherwise routes all
tokens, whatever comes of the fingerprint. -/
theorem runBundle_requests (e : Engine) (b : Binder) (q : Request) (bundle : Bundle) :
    ((e.runBundle b q bundle).effects.filter (·.token?.isSome) = [] ∧
        ∃ cause, (e.runBundle b q bundle).result = .error cause) ∨
      (e.runBundle b q bundle).effects.filter (·.token?.isSome) =
        (routeAll e.registry e.resolver bundle.tokens).flatMap Route.effects := by
  have silent : ((e.identities.lookups q.peer).map Effect.lookUp).filter (·.token?.isSome) = [] :=
    Effect.filter_lookUps (fun _ => rfl) _
  cases pair : e.identities.pair q.peer with
  | error cause =>
    left
    simp only [runBundle, pair, silent]
    exact ⟨trivial, _, rfl⟩
  | ok both =>
    right
    obtain ⟨self, peer⟩ := both
    have all :
        ((routeAll e.registry e.resolver bundle.tokens).flatMap Route.effects).filter
            (·.token?.isSome) =
          (routeAll e.registry e.resolver bundle.tokens).flatMap Route.effects := by
      refine List.filter_eq_self.mpr fun x mem => ?_
      obtain ⟨_, routed, asked⟩ := List.mem_flatMap.mp mem
      obtain ⟨i, _, rfl⟩ := List.mem_mapIdx.mp routed
      rw [token?_of_mem_effects x asked, Option.isSome_some]
    have quiet (parties : PartyIdentity × PartyIdentity) :
        (Effect.computeFingerprint parties.1 parties.2).token?.isSome = false := rfl
    cases print : e.fingerprints (q.role.order self peer).1 (q.role.order self peer).2 <;>
      simp only [runBundle, pair, print, List.filter_append, silent, List.filter_cons, quiet, all,
        Bool.false_eq_true, if_false, List.nil_append]

/-- The order in which a pass is written down is one of those in which it may ask. So what holds in
every order holds of the pass. -/
theorem run_mayAsk (e : Engine) (b : Binder) (q : Request) :
    e.MayAsk (fun _ => e.resolver) b q ((e.run b q).effects.filter (·.token?.isSome)) where
  malformed cause parsed := by simp only [run, parsed, List.filter_nil]
  reached bundle parsed := by
    have reached := (Told.settle_all e.registry e.resolver bundle.tokens).reached
    have settled : ∀ s ∈ (routeAll e.registry e.resolver bundle.tokens).map Stage.settled,
        s.IsSettled :=
      List.forall_mem_map.mpr fun route _ => ⟨route, rfl⟩
    by_cases empty : bundle.isEmpty = true
    · have none : bundle.tokens = [] := List.isEmpty_iff.mp empty
      simp only [run, parsed, empty, if_true, List.filter_nil]
      refine ⟨_, ?_, fun _ => settled⟩
      simpa only [none, routeAll, List.mapIdx_nil, List.flatMap_nil] using reached
    · have whole : e.run b q = e.runBundle b q bundle := by
        rw [run, parsed]
        exact if_neg empty
      rw [whole]
      rcases e.runBundle_requests b q bundle with ⟨nothing, cause, failed⟩ | requests
      · -- No token has begun, which is one of the points at which a pass may be given up.
        rw [nothing, failed]
        refine ⟨_, .start, ?_⟩
        rintro ⟨report, ⟨⟩⟩
      · rw [requests]
        exact ⟨_, reached, fun _ => settled⟩

end Engine

end TokenBinding.Verification
