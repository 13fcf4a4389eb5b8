import Mathlib.Data.List.Basic
import Mathlib.Data.List.Induction
import TokenBinding.Proofs.Authorization.Family

/-!
# What happened at a simulated client

A run of the client is any number of calls, in any order: providers are registered and told how to
behave, requests are made and codes exchanged, while other ceremonies are still open. A call is
served whole: the next one is made when it has returned, or was left waiting. Each call comes to an
event, and the events of a run are its history.

The history alone tells what the client does next: how a provider is served (`served?`), which nonce
a replayed token will carry (`previousNonce?`), and which codes can be exchanged, and for what
(`Open`). `Tracks` says that the state of the client is what the history tells. One call preserves
it (`Tracks.serve`), whichever way it goes, so it holds at the end of every run (`tracks_run`), and
at each event within one, because what comes before an event is the history of a run, too
(`exists_run_of_history`).
-/

namespace TokenBinding.Authorization.Simulated

/-! ## Calls and events -/

/-- What can be asked of the client. An exchange is made at some time. -/
inductive Call where
  | register (displayId : String) (issuer : Issuer) (email : String)
  | setBehavior (displayId : String) (behavior : Behavior)
  | authorize (request : AuthorizationRequest)
  | exchange (now : UInt64) (authorization : Authorization)

/-- The request that is made. -/
def Call.request? : Call → Option AuthorizationRequest
  | authorize request => some request
  | _ => none

/-- Whether a code is handed in. -/
def Call.isExchange : Call → Bool
  | exchange _ _ => true
  | _ => false

/-- A call, with what came of it. -/
inductive Event where
  | registered (displayId : String) (issuer : Issuer) (email : String)
  | told (displayId : String) (behavior : Behavior)
  | authorized (request : AuthorizationRequest) (reply : Reply Authorization)
  | exchanged (now : UInt64) (authorization : Authorization) (reply : Reply String)

namespace Event

/-- The call that the event came of. -/
def call : Event → Call
  | registered displayId issuer email => .register displayId issuer email
  | told displayId behavior => .setBehavior displayId behavior
  | authorized request _ => .authorize request
  | exchanged now authorization _ => .exchange now authorization

/-- The code that is given out. -/
def code? : Event → Option String
  | authorized _ (.returned (.ok granted)) => some granted.code
  | _ => none

/-- The code that is handed in. -/
def handedIn? : Event → Option String
  | exchanged _ authorization _ => some authorization.code
  | _ => none

/-- The code that is exchanged for a token. -/
def redeemed? : Event → Option String
  | exchanged _ authorization (.returned (.ok _)) => some authorization.code
  | _ => none

/-- The nonce of a request that is answered, one way or another. -/
def answeredNonce? : Event → Option String
  | authorized request (.returned _) => some request.nonce
  | _ => none

/-- How a provider is served behind the event, if it was served in this way before. -/
def served? (id : String) (e? : Option Entry) : Event → Option Entry
  | registered displayId issuer email =>
    if displayId = id then some { issuer := issuer, email := email } else e?
  | told displayId behavior =>
    if displayId = id then e?.map fun e => { e with behavior := behavior } else e?
  | _ => e?

/-- The code is given out or handed in. -/
def Touches (x : Event) (code : String) : Prop := x.code? = some code ∨ x.handedIn? = some code

end Event

/-- Serves a call. -/
def State.serve (draws : Draws) (s : State) : Call → Event × State
  | .register id issuer email => (.registered id issuer email, s.register id issuer email)
  | .setBehavior id behavior => (.told id behavior, s.setBehavior id behavior)
  | .authorize request =>
    let (reply, s) := s.authorize draws request
    (.authorized request reply, s)
  | .exchange now authorization =>
    let (reply, s) := s.exchange now authorization
    (.exchanged now authorization reply, s)

/-- What happened so far, and what the client has come to. -/
structure Run where
  history : List Event := []
  state : State := {}

/-- Goes on with one more call. -/
def Run.next (draws : Draws) (r : Run) (call : Call) : Run where
  history := r.history ++ [(r.state.serve draws call).1]
  state := (r.state.serve draws call).2

/-- The calls, one after the other, to a client that starts with nothing. -/
def run (draws : Draws) (calls : List Call) : Run := calls.foldl (Run.next draws) {}

/-! ## What a history tells -/

/-- The codes that were given out, in order. -/
def codes (h : List Event) : List String := h.filterMap Event.code?

/-- How a provider is served: as it was registered last, and it behaves as it was told since. -/
def served? (h : List Event) (id : String) : Option Entry := h.foldl (Event.served? id) none

/-- The nonce of the last request that a provider answered, and did not just hang. -/
def previousNonce? (h : List Event) : Option String := (h.filterMap Event.answeredNonce?).getLast?

/-- The nonce that a provider settles on for a request, by the way it behaves: `previous?` is the
nonce of the request before, and `stray` one that nobody asked for. -/
inductive Settles (request : AuthorizationRequest) (previous? : Option String) (stray : String) :
    Behavior → Option String → Prop
  | honest : Settles request previous? stray .honest (some request.nonce)
  | wrongNonce : Settles request previous? stray .wrongNonce (some stray)
  | omitNonce : Settles request previous? stray .omitNonce none
  | replayPrevious : Settles request previous? stray .replayPrevious previous?
  | failExchange : Settles request previous? stray .failExchange (some request.nonce)

/-- A well-formed nonce, bound to nothing. -/
def strayAt (draws : Draws) (i : Nat) : String :=
  (⟨draws.trueNonce i, .zero⟩ : CompoundNonce).text

/-- A behavior settles on one nonce. -/
theorem Settles.unique {request : AuthorizationRequest} {previous? : Option String} {stray : String}
    {b : Behavior} {nonce? nonce'? : Option String} (h : Settles request previous? stray b nonce?)
    (h' : Settles request previous? stray b nonce'?) : nonce? = nonce'? := by
  cases h <;> cases h' <;> rfl

/-- A request is granted in this way after what happened: the provider is served, the code is the
next one to be drawn, and the nonce of the token is settled. -/
structure Granted (draws : Draws) (h : List Event) (request : AuthorizationRequest) (code : String)
    (nonce? : Option String) : Prop where
  drawn : code = draws.code (codes h).length
  settled : ∃ e, served? h request.provider.displayId = some e ∧
    Settles request (previousNonce? h) (strayAt draws (codes h).length) e.behavior nonce?

/-- What happened before a request settles the nonce of its token, whatever code it is granted
with. -/
theorem Granted.unique {draws : Draws} {h : List Event} {request : AuthorizationRequest}
    {code code' : String} {nonce? nonce'? : Option String} (g : Granted draws h request code nonce?)
    (g' : Granted draws h request code' nonce'?) : nonce? = nonce'? := by
  obtain ⟨e, served, settles⟩ := g.settled
  obtain ⟨e', served', settles'⟩ := g'.settled
  obtain rfl : e = e' := Option.some.inj (served.symm.trans served')
  exact settles.unique settles'

/-- The event that a request is granted, with the provider and the state that it came with. -/
def Event.granted (request : AuthorizationRequest) (code : String) : Event :=
  .authorized request (.returned (.ok ⟨request.provider, code, request.state⟩))

/-- The code was given out for a token of this provider with this nonce, and was not handed in
since. -/
def Open (draws : Draws) (h : List Event) (code : String) (issued : IssuedCode) : Prop :=
  ∃ before request since, h = before ++ .granted request code :: since ∧
    issued.displayId = request.provider.displayId ∧
    Granted draws before request code issued.nonce? ∧ ∀ x ∈ since, ¬x.Touches code

section Concat

variable {draws : Draws} {h : List Event} {x : Event} {code : String} {issued : IssuedCode}

theorem codes_append (h later : List Event) : codes (h ++ later) = codes h ++ codes later :=
  List.filterMap_append

theorem codes_concat : codes (h ++ [x]) = codes h ++ x.code?.toList := by
  rw [codes_append]
  cases code : x.code? <;> simp [codes, code]

/-- How a provider is served behind a history is told by how it was served before the last event,
and by that event. -/
theorem served?_concat {id : String} :
    served? (h ++ [x]) id = Event.served? id (served? h id) x := by
  rw [served?, List.foldl_append]
  rfl

/-- The last nonce is that of the last event if it answers a request, and stays what it was
otherwise. -/
theorem previousNonce?_concat :
    previousNonce? (h ++ [x]) = (x.answeredNonce?).or (previousNonce? h) := by
  rw [previousNonce?, List.filterMap_append]
  cases nonce : x.answeredNonce? <;> simp [previousNonce?, nonce]

/-- A provider that is served will always be served. Registrations may replace one another, and
nothing takes one away. -/
theorem served?_append_of_some {id : String} {e : Entry} (later : List Event)
    (served : served? h id = some e) : ∃ e', served? (h ++ later) id = some e' := by
  induction later using List.reverseRecOn with
  | nil => exact ⟨e, by rw [List.append_nil, served]⟩
  | append_singleton later x ih =>
    obtain ⟨e', served'⟩ := ih
    rw [← List.append_assoc, served?_concat, served']
    cases x with
    | registered displayId issuer email =>
      by_cases same : displayId = id
      · exact ⟨_, if_pos same⟩
      · exact ⟨e', if_neg same⟩
    | told displayId behavior =>
      by_cases same : displayId = id
      · exact ⟨_, if_pos same⟩
      · exact ⟨e', if_neg same⟩
    | authorized request reply => exact ⟨e', rfl⟩
    | exchanged now authorization reply => exact ⟨e', rfl⟩

/-- A code is open behind an event if it is given out by it, or was open before and is left
alone. -/
theorem open_concat_iff :
    Open draws (h ++ [x]) code issued ↔
      (∃ request, x = .granted request code ∧ issued.displayId = request.provider.displayId ∧
        Granted draws h request code issued.nonce?) ∨
      Open draws h code issued ∧ ¬x.Touches code := by
  constructor
  · rintro ⟨before, request, since, split, id, granted, untouched⟩
    rcases List.eq_nil_or_concat' since with rfl | ⟨since, last, rfl⟩
    · obtain ⟨rfl, one⟩ := List.append_inj' split rfl
      exact .inl ⟨request, List.singleton_inj.mp one, id, granted⟩
    · rw [← List.cons_append, ← List.append_assoc] at split
      obtain ⟨rfl, one⟩ := List.append_inj' split rfl
      obtain rfl : x = last := List.singleton_inj.mp one
      refine .inr ⟨⟨before, request, since, rfl, id, granted, ?_⟩, ?_⟩
      · intro y mem
        exact untouched y (List.mem_append_left _ mem)
      · exact untouched x (List.mem_append_right _ (List.mem_singleton_self x))
  · rintro (⟨request, rfl, id, granted⟩ | ⟨opened, free⟩)
    · exact ⟨h, request, [], rfl, id, granted, nofun⟩
    · obtain ⟨before, request, since, rfl, id, granted, untouched⟩ := opened
      refine ⟨before, request, since ++ [x], by simp, id, granted, ?_⟩
      intro y mem
      rcases List.mem_append.mp mem with among | last
      · exact untouched y among
      · exact List.mem_singleton.mp last ▸ free

/-- What gives no code out and takes none in leaves the open codes as they are. -/
theorem open_concat_of_silent (code : x.code? = none) (handedIn : x.handedIn? = none) {c : String} :
    Open draws (h ++ [x]) c issued ↔ Open draws h c issued := by
  have untouched : ¬x.Touches c := by simp [Event.Touches, code, handedIn]
  have other : ∀ request, x ≠ .granted request c := by
    rintro request rfl
    cases code
  simp only [open_concat_iff, untouched, other, false_and, exists_false, not_false_eq_true,
    and_true, false_or]

end Concat

/-! ## What one call does -/

variable {draws : Draws} {h : List Event} {s : State} {request : AuthorizationRequest}
  {now : UInt64} {authorization : Authorization}

/-- The state in which the request is noted and answered. -/
def State.answered (s : State) (request : AuthorizationRequest) : State :=
  { s.noteRequest request with lastNonce? := some request.nonce }

/-- How an authorization goes. -/
inductive Authorizes (draws : Draws) (request : AuthorizationRequest) (s : State) :
    Reply Authorization × State → Prop
  /-- Nobody is served under the id. -/
  | unknown (absent : s.entry? request.provider.displayId = none) :
    Authorizes draws request s
      (.returned (.error (.authorization ("unknown provider " ++ request.provider.displayId))),
        s.answered request)
  | hang {e : Entry} (served : s.entry? request.provider.displayId = some e)
      (hangs : e.behavior = .hang) : Authorizes draws request s (.waiting, s.noteRequest request)
  | cancel {e : Entry} (served : s.entry? request.provider.displayId = some e)
      (cancels : e.behavior = .cancel) :
    Authorizes draws request s (.returned (.error .cancelled), s.answered request)
  /-- A code is given out. -/
  | grant {e : Entry} {nonce? : Option String}
      (served : s.entry? request.provider.displayId = some e)
      (settles : Settles request s.lastNonce? (strayAt draws s.issued) e.behavior nonce?) :
    Authorizes draws request s (State.grant draws request nonce? (s.answered request))

/-- An authorization goes in one of these ways. The later proofs split into the four of them, and
never look into how a request is answered. -/
theorem authorize_goes (draws : Draws) (request : AuthorizationRequest) (s : State) :
    Authorizes draws request s (s.authorize draws request) := by
  cases served : s.entry? request.provider.displayId with
  | none =>
    simp only [State.authorize, served]
    exact .unknown served
  | some e =>
    have grant {b : Behavior} {nonce? : Option String} (behaves : e.behavior = b)
        (settles : Settles request s.lastNonce? (strayAt draws s.issued) b nonce?) :
        Authorizes draws request s (State.grant draws request nonce? (s.answered request)) :=
      .grant served (behaves ▸ settles)
    cases behavior : e.behavior <;> simp only [State.authorize, served, behavior]
    case hang => exact .hang served behavior
    case cancel => exact .cancel served behavior
    case honest => exact grant behavior .honest
    case wrongNonce => exact grant behavior .wrongNonce
    case omitNonce => exact grant behavior .omitNonce
    case replayPrevious => exact grant behavior .replayPrevious
    case failExchange => exact grant behavior .failExchange

/-- The client without a code. -/
def State.spent (s : State) (code : String) : State :=
  { s with exchanges := s.exchanges + 1, codes := s.codes.filter fun c => c.1 ≠ code }

/-- How an exchange goes. -/
inductive Exchanges (now : UInt64) (authorization : Authorization) (s : State) :
    Reply String × State → Prop
  | unknown (closed : s.codes.lookup authorization.code = none) :
    Exchanges now authorization s (.returned (.error (.exchange "unknown or reused code")),
      { s with exchanges := s.exchanges + 1 })
  | vanish {issued : IssuedCode} (found : s.codes.lookup authorization.code = some issued)
      (absent : s.entry? issued.displayId = none) :
    Exchanges now authorization s (.returned (.error (.exchange "provider vanished")),
      s.spent authorization.code)
  | fail {issued : IssuedCode} {e : Entry}
      (found : s.codes.lookup authorization.code = some issued)
      (served : s.entry? issued.displayId = some e) (fails : e.behavior = .failExchange) :
    Exchanges now authorization s (.returned (.error (.exchange "token endpoint returned 500")),
      s.spent authorization.code)
  | token {issued : IssuedCode} {e : Entry}
      (found : s.codes.lookup authorization.code = some issued)
      (served : s.entry? issued.displayId = some e) (serves : e.behavior ≠ .failExchange) :
    Exchanges now authorization s
      (.returned (.ok (e.issuer.sign
          (State.claims e now authorization.provider.clientId issued.nonce?))),
        s.spent authorization.code)

/-- An exchange goes in one of these ways, and each but the first spends the code. So whoever hands
a code in a second time is refused, whatever came of the first time. -/
theorem exchange_goes (now : UInt64) (authorization : Authorization) (s : State) :
    Exchanges now authorization s (s.exchange now authorization) := by
  cases found : s.codes.lookup authorization.code with
  | none =>
    simp only [State.exchange, found]
    exact .unknown found
  | some issued =>
    cases served : s.entry? issued.displayId with
    | none =>
      simp only [State.exchange, found, served]
      exact .vanish found served
    | some e =>
      by_cases fails : e.behavior = .failExchange
      · simp only [State.exchange, found, served, if_pos fails]
        exact .fail found served fails
      · simp only [State.exchange, found, served, if_neg fails]
        exact .token found served fails

/-- The state is what the history tells. -/
structure Tracks (draws : Draws) (h : List Event) (s : State) : Prop where
  requests : s.requests = h.filterMap fun x => x.call.request?
  exchanges : s.exchanges = h.countP fun x => x.call.isExchange
  issued : s.issued = (codes h).length
  previous : s.lastNonce? = previousNonce? h
  entry : ∀ id, s.entry? id = served? h id
  codes : ∀ code issued, s.codes.lookup code = some issued ↔ Open draws h code issued

/-- A client that starts with nothing tracks the empty history. -/
theorem Tracks.start (draws : Draws) : Tracks draws [] {} where
  requests := rfl
  exchanges := rfl
  issued := rfl
  previous := rfl
  entry _ := rfl
  codes code issued := by
    constructor
    · exact nofun
    · rintro ⟨before, request, since, split, -⟩
      exact absurd split.symm (List.append_ne_nil_of_right_ne_nil before (List.cons_ne_nil _ _))

/-- Only the provider that is told so behaves in another way, and only if it is served at all. -/
theorem entry?_setBehavior (s : State) (id other : String) (b : Behavior) :
    State.entry? (s.setBehavior id b) other =
      if other = id then (s.entry? id).map fun e => { e with behavior := b }
      else s.entry? other := by
  unfold State.setBehavior
  cases known : s.entry? id with
  | some e => exact entry?_setEntry s id other _
  | none =>
    by_cases same : other = id
    · rw [if_pos same, same]
      exact known
    · rw [if_neg same]

/-- Providers may be given other entries by an event that nothing else comes of. -/
theorem Tracks.setProviders {x : Event} {providers : List (String × Entry)}
    (tracks : Tracks draws h s) (request : x.call.request? = none)
    (exchange : x.call.isExchange = false) (code : x.code? = none)
    (handedIn : x.handedIn? = none) (answered : x.answeredNonce? = none)
    (entry : ∀ id, providers.lookup id = x.served? id (s.entry? id)) :
    Tracks draws (h ++ [x]) { s with providers := providers } where
  requests := by simp [List.filterMap_append, request, tracks.requests]
  exchanges := by simp [List.countP_append, exchange, tracks.exchanges]
  issued := by simp [codes_concat, code, tracks.issued]
  previous := by simp [previousNonce?_concat, answered, tracks.previous]
  entry id := by rw [served?_concat, ← tracks.entry]; exact entry id
  codes c issued := (tracks.codes c issued).trans (open_concat_of_silent code handedIn).symm

/-- A registration keeps the client in step with its history. -/
theorem Tracks.register (tracks : Tracks draws h s) (id : String) (issuer : Issuer)
    (email : String) :
    Tracks draws (h ++ [.registered id issuer email]) (s.register id issuer email) := by
  refine tracks.setProviders rfl rfl rfl rfl rfl ?_
  intro other
  refine (entry?_register s id other issuer email).trans ?_
  simp only [Event.served?, eq_comm]

theorem Tracks.setBehavior (tracks : Tracks draws h s) (id : String) (b : Behavior) :
    Tracks draws (h ++ [.told id b]) (s.setBehavior id b) := by
  have same : s.setBehavior id b = { s with providers := (s.setBehavior id b).providers } := by
    unfold State.setBehavior
    cases s.entry? id <;> rfl
  rw [same]
  refine tracks.setProviders rfl rfl rfl rfl rfl ?_
  intro other
  refine (entry?_setBehavior s id other b).trans ?_
  by_cases told : other = id
  · simp only [Event.served?, told, if_true]
  · simp only [Event.served?, if_neg told, if_neg (Ne.symm told)]

/-- A request that gives no code out is noted, and its nonce is kept if it is answered. The nonce is
replaced before it is known whether anybody serves the provider, so a request in vain counts too. -/
theorem Tracks.note {reply : Reply Authorization} (tracks : Tracks draws h s)
    (code : Event.code? (.authorized request reply) = none) :
    Tracks draws (h ++ [.authorized request reply])
      { s.noteRequest request with
        lastNonce? := (Event.answeredNonce? (.authorized request reply)).or s.lastNonce? } where
  requests := by simp [List.filterMap_append, tracks.requests, State.noteRequest, Event.call,
    Call.request?]
  exchanges := by simp [List.countP_append, tracks.exchanges, State.noteRequest, Event.call,
    Call.isExchange]
  issued := by simp [codes_concat, code, tracks.issued, State.noteRequest]
  previous := by rw [previousNonce?_concat, ← tracks.previous]
  entry id := by
    rw [served?_concat, ← tracks.entry]
    rfl
  codes c issued := (tracks.codes c issued).trans (open_concat_of_silent code rfl).symm

/-- A code that is given out is open from then on, with the nonce that was settled for it. -/
theorem Tracks.grant {nonce? : Option String} (tracks : Tracks draws h s)
    (granted : Granted draws h request (draws.code s.issued) nonce?) :
    Tracks draws (h ++ [.granted request (draws.code s.issued)])
      (State.grant draws request nonce? (s.answered request)).2 where
  requests := by simp [List.filterMap_append, tracks.requests, State.grant, State.answered,
    State.noteRequest, Event.granted, Event.call, Call.request?]
  exchanges := by simp [List.countP_append, tracks.exchanges, State.grant, State.answered,
    State.noteRequest, Event.granted, Event.call, Call.isExchange]
  issued := by simp [codes_concat, tracks.issued, State.grant, State.answered,
    State.noteRequest, Event.granted, Event.code?]
  previous := by
    rw [previousNonce?_concat]
    rfl
  entry id := by
    rw [served?_concat, ← tracks.entry]
    rfl
  codes c issued := by
    have table : (State.grant draws request nonce? (s.answered request)).2.codes =
      (draws.code s.issued, ⟨request.provider.displayId, nonce?⟩) :: s.codes := rfl
    rw [table, List.lookup_cons, open_concat_iff]
    by_cases same : c = draws.code s.issued
    · subst same
      rw [beq_self_eq_true]
      constructor
      · rintro ⟨⟩
        exact .inl ⟨request, rfl, rfl, granted⟩
      · rintro (⟨request', event, id, granted'⟩ | ⟨-, untouched⟩)
        · obtain rfl : request = request' := (Event.authorized.inj event).1
          obtain rfl : nonce? = issued.nonce? := granted.unique granted'
          rw [← id]
        · exact absurd (.inl rfl) untouched
    · rw [beq_eq_false_iff_ne.mpr same]
      have untouched : ¬(Event.granted request (draws.code s.issued)).Touches c := by
        rintro (given | handedIn)
        · exact same (Option.some.inj given).symm
        · cases handedIn
      constructor
      · intro found
        exact .inr ⟨(tracks.codes c issued).mp found, untouched⟩
      · rintro (⟨request', event, -⟩ | ⟨opened, -⟩)
        · have code := congrArg Event.code? event
          exact absurd (Option.some.inj code).symm same
        · exact (tracks.codes c issued).mpr opened

/-- A request that a served provider settles on a nonce for is granted. -/
theorem Tracks.granted {e : Entry} {nonce? : Option String} (tracks : Tracks draws h s)
    (served : s.entry? request.provider.displayId = some e)
    (settles : Settles request s.lastNonce? (strayAt draws s.issued) e.behavior nonce?) :
    Granted draws h request (draws.code s.issued) nonce? := by
  rw [tracks.entry] at served
  rw [tracks.previous, tracks.issued] at settles
  exact ⟨by rw [tracks.issued], e, served, settles⟩

/-- A request keeps the state on track, in whichever way it is answered. -/
theorem Tracks.authorize (tracks : Tracks draws h s) (request : AuthorizationRequest) :
    Tracks draws (h ++ [.authorized request (s.authorize draws request).1])
      (s.authorize draws request).2 := by
  have goes := authorize_goes draws request s
  generalize s.authorize draws request = r at goes
  cases goes with
  | unknown absent => exact tracks.note rfl
  | hang served hangs => exact tracks.note rfl
  | cancel served cancels => exact tracks.note rfl
  | grant served settles => exact tracks.grant (tracks.granted served settles)

/-- An exchange is counted, and the code is open no more. Other codes keep what was settled when
they were given out. -/
theorem Tracks.spend {codes : List (String × IssuedCode)} {reply : Reply String}
    (tracks : Tracks draws h s)
    (spent : ∀ c, codes.lookup c = if c = authorization.code then none else s.codes.lookup c) :
    Tracks draws (h ++ [.exchanged now authorization reply])
      { s with exchanges := s.exchanges + 1, codes := codes } where
  requests := by simp [List.filterMap_append, tracks.requests, Event.call, Call.request?]
  exchanges := by simp [List.countP_append, tracks.exchanges, Event.call, Call.isExchange]
  issued := by simp [codes_concat, tracks.issued, Event.code?]
  previous := by
    rw [previousNonce?_concat, ← tracks.previous]
    rfl
  entry id := by
    rw [served?_concat, ← tracks.entry]
    rfl
  codes c issued := by
    have other : ∀ request, Event.exchanged now authorization reply ≠ .granted request c :=
      fun request => nofun
    rw [open_concat_iff, spent]
    by_cases same : c = authorization.code
    · have touched : (Event.exchanged now authorization reply).Touches c := .inr (same ▸ rfl)
      simp only [if_pos same, touched, other, false_and, exists_false, not_true_eq_false,
        and_false, or_self, reduceCtorEq]
    · have untouched : ¬(Event.exchanged now authorization reply).Touches c := by
        rintro (given | handedIn)
        · cases given
        · exact same (Option.some.inj handedIn).symm
      simp only [if_neg same, untouched, other, false_and, exists_false, not_false_eq_true,
        and_true, false_or]
      exact tracks.codes c issued

/-- An exchange keeps the state on track: whatever comes of it, the code that was handed in is open
no more, and no other code is touched. -/
theorem Tracks.exchange (tracks : Tracks draws h s) (now : UInt64)
    (authorization : Authorization) :
    Tracks draws (h ++ [.exchanged now authorization (s.exchange now authorization).1])
      (s.exchange now authorization).2 := by
  have goes := exchange_goes now authorization s
  generalize s.exchange now authorization = r at goes
  cases goes with
  | unknown closed =>
    refine tracks.spend ?_
    intro c
    by_cases same : c = authorization.code
    · rw [if_pos same, same, closed]
    · rw [if_neg same]
  | vanish found absent => exact tracks.spend fun c => lookup_filter_ne s.codes
  | fail found served fails => exact tracks.spend fun c => lookup_filter_ne s.codes
  | token found served serves => exact tracks.spend fun c => lookup_filter_ne s.codes

/-- One call keeps the state on track. This is the step of the induction over runs. -/
theorem Tracks.serve (tracks : Tracks draws h s) (call : Call) :
    Tracks draws (h ++ [(s.serve draws call).1]) (s.serve draws call).2 := by
  cases call with
  | register id issuer email => exact tracks.register id issuer email
  | setBehavior id behavior => exact tracks.setBehavior id behavior
  | authorize request => exact tracks.authorize request
  | exchange now authorization => exact tracks.exchange now authorization

/-! ## Runs -/

variable {calls : List Call}

/-- A run of one more call is the run without it, and then that call. Histories grow at the end, so
the inductions over runs are from the end as well. -/
theorem run_concat (draws : Draws) (calls : List Call) (call : Call) :
    run draws (calls ++ [call]) = (run draws calls).next draws call := by
  rw [run, List.foldl_append]
  rfl

/-- At the end of a run the state is what the history tells. -/
theorem tracks_run (draws : Draws) (calls : List Call) :
    Tracks draws (run draws calls).history (run draws calls).state := by
  induction calls using List.reverseRecOn with
  | nil => exact .start draws
  | append_singleton calls call ih =>
    rw [run_concat]
    exact ih.serve call

/-- Each call has come to an event. -/
theorem map_call_run (draws : Draws) (calls : List Call) :
    (run draws calls).history.map Event.call = calls := by
  induction calls using List.reverseRecOn with
  | nil => rfl
  | append_singleton calls call ih =>
    have made : Event.call ((run draws calls).state.serve draws call).1 = call := by
      cases call <;> rfl
    rw [run_concat, Run.next, List.map_append, List.map_singleton, ih, made]

/-- What comes before an event is the history of a run, and the event is what the next call comes
to. -/
theorem exists_run_of_history {before later : List Event} {x : Event}
    (split : (run draws calls).history = before ++ x :: later) :
    ∃ earlier call, (run draws earlier).history = before ∧
      ((run draws earlier).state.serve draws call).1 = x := by
  induction calls using List.reverseRecOn generalizing later with
  | nil =>
    exact absurd split.symm (List.append_ne_nil_of_right_ne_nil before (List.cons_ne_nil _ _))
  | append_singleton calls call ih =>
    rw [run_concat, Run.next] at split
    rcases List.eq_nil_or_concat' later with rfl | ⟨later, last, rfl⟩
    · obtain ⟨same, one⟩ := List.append_inj' split rfl
      exact ⟨calls, call, same, List.singleton_inj.mp one⟩
    · rw [← List.cons_append, ← List.append_assoc] at split
      exact ih (List.append_inj' split rfl).1

end TokenBinding.Authorization.Simulated
