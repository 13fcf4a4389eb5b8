import TokenBinding.Proofs.Authorization.History
import TokenBinding.Proofs.Authorization.IssuedToken

/-!
# Codes are redeemed once

What the simulated client answers is told by what happened before: for a request by `Replies`, for
a code that is handed in by `Answers`. A code is exchanged for a token only while it is open, and it
is open only until it is handed in. So as long as no code is given out twice, no code gives two
tokens, and a code that was handed in is refused ever after, whether the first exchange came to
anything or not. A guess is refused, too, but it does no harm to a code that is given out only after
it: that code can still be exchanged once. Where nobody guesses (`Unguessed`), a code that was
handed in is closed.

The nonce of a token is settled when its code is given out. Whatever happens between that and the
exchange, the token carries that nonce; a provider that is told to fail by then only withholds it.

What it does not establish. That codes are distinct and hard to guess is up to where they are drawn
from (`Draws`). A call is served whole, so nothing is said of two that overlap.

Main statement: `run_redeems_once`.
-/

namespace TokenBinding.Authorization.Simulated

variable {draws : Draws} {h before later : List Event} {s : State} {request : AuthorizationRequest}
  {now : UInt64} {authorization : Authorization} {code : String} {issued : IssuedCode}
  {calls : List Call}

/-! ## Replies -/

/-- How a request is answered after what happened. -/
inductive Replies (draws : Draws) (h : List Event) (request : AuthorizationRequest) :
    Reply Authorization → Prop
  | unknown (absent : served? h request.provider.displayId = none) :
    Replies draws h request
      (.returned (.error (.authorization ("unknown provider " ++ request.provider.displayId))))
  | waiting {e : Entry} (served : served? h request.provider.displayId = some e)
      (hangs : e.behavior = .hang) : Replies draws h request .waiting
  | cancelled {e : Entry} (served : served? h request.provider.displayId = some e)
      (cancels : e.behavior = .cancel) : Replies draws h request (.returned (.error .cancelled))
  | granted {code : String} {nonce? : Option String}
      (granted : Granted draws h request code nonce?) :
    Replies draws h request (.returned (.ok ⟨request.provider, code, request.state⟩))

/-- How an exchange is answered after what happened: with a token if the code is open, unless the
provider fails by then. -/
inductive Answers (draws : Draws) (h : List Event) (now : UInt64) (authorization : Authorization) :
    Reply String → Prop
  | refused (closed : ∀ issued, ¬Open draws h authorization.code issued) :
    Answers draws h now authorization (.returned (.error (.exchange "unknown or reused code")))
  | failed {issued : IssuedCode} {e : Entry} (opened : Open draws h authorization.code issued)
      (served : served? h issued.displayId = some e) (fails : e.behavior = .failExchange) :
    Answers draws h now authorization (.returned (.error (.exchange "token endpoint returned 500")))
  | token {issued : IssuedCode} {e : Entry} (opened : Open draws h authorization.code issued)
      (served : served? h issued.displayId = some e) (serves : e.behavior ≠ .failExchange) :
    Answers draws h now authorization
      (.returned (.ok (e.issuer.sign
        (State.claims e now authorization.provider.clientId issued.nonce?))))

/-- A client that is in step with its history replies as the history says. -/
theorem Tracks.replies (tracks : Tracks draws h s) (request : AuthorizationRequest) :
    Replies draws h request (s.authorize draws request).1 := by
  have goes := authorize_goes draws request s
  generalize s.authorize draws request = r at goes
  cases goes with
  | unknown absent => exact .unknown (tracks.entry _ ▸ absent)
  | hang served hangs => exact .waiting (tracks.entry _ ▸ served) hangs
  | cancel served cancels => exact .cancelled (tracks.entry _ ▸ served) cancels
  | grant served settles => exact .granted (tracks.granted served settles)

/-- The provider of an open code is still served, if perhaps in another way. -/
theorem Open.served (opened : Open draws h code issued) :
    ∃ e, served? h issued.displayId = some e := by
  obtain ⟨before, request, since, rfl, id, granted, -⟩ := opened
  obtain ⟨e, served, -⟩ := granted.settled
  exact served?_append_of_some _ (id ▸ served)

/-- A client that is in step with its history answers an exchange as the history says: with the
token that was settled for an open code, and else with a refusal. -/
theorem Tracks.answers (tracks : Tracks draws h s) (now : UInt64) (authorization : Authorization) :
    Answers draws h now authorization (s.exchange now authorization).1 := by
  have goes := exchange_goes now authorization s
  generalize s.exchange now authorization = r at goes
  cases goes with
  | unknown closed =>
    refine .refused ?_
    intro issued opened
    exact absurd (closed.symm.trans ((tracks.codes _ _).mpr opened)) nofun
  | @vanish issued found absent =>
    obtain ⟨e, served⟩ := ((tracks.codes _ _).mp found).served
    rw [← tracks.entry, absent] at served
    cases served
  | fail found served fails =>
    exact .failed ((tracks.codes _ _).mp found) (tracks.entry _ ▸ served) fails
  | token found served serves =>
    exact .token ((tracks.codes _ _).mp found) (tracks.entry _ ▸ served) serves

/-- Every request of a run is answered by what happened before it. -/
theorem replies_of_history {reply : Reply Authorization}
    (split : (run draws calls).history = before ++ .authorized request reply :: later) :
    Replies draws before request reply := by
  obtain ⟨earlier, call, rfl, event⟩ := exists_run_of_history split
  cases call with
  | authorize request' =>
    obtain ⟨rfl, rfl⟩ := Event.authorized.inj event
    exact (tracks_run draws earlier).replies request'
  | _ => cases event

/-- So is every exchange. -/
theorem answers_of_history {reply : Reply String}
    (split : (run draws calls).history = before ++ .exchanged now authorization reply :: later) :
    Answers draws before now authorization reply := by
  obtain ⟨earlier, call, rfl, event⟩ := exists_run_of_history split
  cases call with
  | exchange now' authorization' =>
    obtain ⟨rfl, rfl, rfl⟩ := Event.exchanged.inj event
    exact (tracks_run draws earlier).answers now' authorization'
  | _ => cases event

/-! ## Open codes -/

/-- An event that gives a code out stands among others. -/
theorem mem_codes_of_granted (before since : List Event) (request : AuthorizationRequest)
    (code : String) : code ∈ codes (before ++ .granted request code :: since) :=
  List.mem_filterMap.mpr ⟨.granted request code, by simp, rfl⟩

/-- A code is open only if it was given out. -/
theorem Open.mem_codes (opened : Open draws h code issued) : code ∈ codes h := by
  obtain ⟨before, request, since, rfl, -⟩ := opened
  exact mem_codes_of_granted before since request code

/-- A code that was handed in is open only if it was given out after that. A text may be handed in
before it is anybody's code, and that alone does not spend it. -/
theorem Open.mem_codes_of_handedIn {x : Event} {between : List Event}
    (opened : Open draws (before ++ x :: between) code issued)
    (handedIn : x.handedIn? = some code) : code ∈ codes between := by
  obtain ⟨first, request, since, split, -, -, untouched⟩ := opened
  have other : x ≠ .granted request code := by
    rintro rfl
    cases handedIn
  rcases List.append_eq_append_iff.mp split with ⟨middle, -, split⟩ | ⟨middle, -, split⟩
  · cases middle with
    | nil => exact absurd (List.cons.inj split).1 other
    | cons y middle =>
      -- The code is given out behind `x`.
      obtain ⟨-, rfl⟩ := List.cons.inj split
      exact mem_codes_of_granted middle since request code
  · cases middle with
    | nil => exact absurd (List.cons.inj split).1.symm other
    | cons y middle =>
      -- It was given out before `x`, which has touched it since.
      obtain ⟨-, rfl⟩ := List.cons.inj split
      exact absurd (.inr handedIn) (untouched x (by simp))

/-- An exchange that does not refuse a code finds it open. -/
theorem Answers.exists_open {reply : Reply String}
    (answers : Answers draws h now authorization reply)
    (taken : reply ≠ .returned (.error (.exchange "unknown or reused code"))) :
    ∃ issued, Open draws h authorization.code issued := by
  cases answers with
  | refused closed => exact absurd rfl taken
  | failed opened served fails => exact ⟨_, opened⟩
  | token opened served serves => exact ⟨_, opened⟩

/-! ## Runs that give no code out twice -/

/-- The codes that were exchanged for a token. -/
def redeemed (h : List Event) : List String := h.filterMap Event.redeemed?

/-- A code that was handed in is refused ever after, unless that was a guess: the code was given out
only after it. -/
theorem refused_of_handedIn {x : Event} {between : List Event} {reply : Reply String}
    (distinct : (codes (run draws calls).history).Nodup)
    (split : (run draws calls).history =
      before ++ x :: between ++ .exchanged now authorization reply :: later)
    (handedIn : x.handedIn? = some authorization.code) :
    reply = .returned (.error (.exchange "unknown or reused code")) ∨
      authorization.code ∉ codes before ∧ authorization.code ∈ codes between := by
  by_cases refused : reply = .returned (.error (.exchange "unknown or reused code"))
  · exact .inl refused
  · obtain ⟨issued, opened⟩ := (answers_of_history split).exists_open refused
    have given : authorization.code ∈ codes between := opened.mem_codes_of_handedIn handedIn
    refine .inr ⟨?_, given⟩
    intro earlier
    rw [split, List.append_assoc, codes_append] at distinct
    refine (List.nodup_append.mp distinct).2.2 _ earlier _ ?_ rfl
    rw [← List.singleton_append, codes_append, codes_append]
    exact List.mem_append_left _ (List.mem_append_right _ given)

/-- No text is handed in before it is given out as a code. -/
def Unguessed (h : List Event) : Prop :=
  ∀ (before : List Event) (x : Event) (later : List Event), h = before ++ x :: later →
    ∀ code ∈ x.handedIn?, code ∉ codes later

/-- Where nobody guesses, a code that was handed in is refused ever after. -/
theorem refused_of_unguessed {x : Event} {between : List Event} {reply : Reply String}
    (distinct : (codes (run draws calls).history).Nodup)
    (unguessed : Unguessed (run draws calls).history)
    (split : (run draws calls).history =
      before ++ x :: between ++ .exchanged now authorization reply :: later)
    (handedIn : x.handedIn? = some authorization.code) :
    reply = .returned (.error (.exchange "unknown or reused code")) := by
  refine (refused_of_handedIn distinct split handedIn).resolve_right fun ⟨_, given⟩ => ?_
  rw [List.append_assoc, List.cons_append] at split
  refine unguessed before x _ split _ handedIn ?_
  rw [codes_append]
  exact List.mem_append_left _ given

/-- An event that redeems a code is an exchange of it, for a token. -/
theorem Event.exists_of_redeemed? {x : Event} (h : x.redeemed? = some code) :
    ∃ now authorization token, x = .exchanged now authorization (.returned (.ok token)) ∧
      authorization.code = code := by
  unfold Event.redeemed? at h
  split at h
  · next now authorization token => exact ⟨now, authorization, token, rfl, Option.some.inj h⟩
  · cases h

/-- No code is exchanged for two tokens. Of two exchanges of one code, the later finds a code that
was handed in, and is refused. -/
theorem nodup_redeemed (distinct : (codes (run draws calls).history).Nodup) :
    (redeemed (run draws calls).history).Nodup := by
  rw [redeemed, List.Nodup, List.pairwise_filterMap, List.pairwise_iff_forall_sublist]
  rintro x y pair code first code second rfl
  obtain ⟨now, authorization, token, rfl, rfl⟩ := Event.exists_of_redeemed? first
  obtain ⟨now', authorization', token', rfl, same⟩ := Event.exists_of_redeemed? second
  obtain ⟨front, back, whole, earlier, rest⟩ := List.cons_sublist_iff.mp pair
  obtain ⟨before, between, rfl⟩ := List.append_of_mem earlier
  obtain ⟨between', later, rfl⟩ := List.append_of_mem (List.singleton_sublist.mp rest)
  have given : authorization.code ∈ codes before := by
    rw [List.append_assoc] at whole
    obtain ⟨issued, opened⟩ := (answers_of_history whole).exists_open nofun
    exact opened.mem_codes
  have split : (run draws calls).history =
      before ++ .exchanged now authorization (.returned (.ok token)) :: (between ++ between') ++
        .exchanged now' authorization' (.returned (.ok token')) :: later := by
    simpa using whole
  rw [← same] at given
  rcases refused_of_handedIn distinct split (same ▸ rfl) with refused | ⟨guessed, -⟩
  · cases refused
  · exact guessed given

/-! ## All runs -/

/-- What comes of any calls, in any order. -/
structure Run.Faithful (draws : Draws) (calls : List Call) (r : Run) : Prop where
  /-- Each call has come to an event. -/
  made : r.history.map Event.call = calls
  /-- The requests are listed as they were made, also those that failed, or were left waiting. -/
  requests : r.state.requests = calls.filterMap Call.request?
  exchanges : r.state.exchanges = calls.countP Call.isExchange
  replies : ∀ before request reply later,
    r.history = before ++ .authorized request reply :: later → Replies draws before request reply
  answers : ∀ before now authorization reply later,
    r.history = before ++ .exchanged now authorization reply :: later →
      Answers draws before now authorization reply
  /-- No code is exchanged for two tokens. -/
  once : (redeemed r.history).Nodup
  /-- A code that was handed in is refused ever after, whatever came of that, unless it was a guess
  and the code was given out only later. -/
  spent : ∀ before now authorization reply between now' authorization' reply' later,
    r.history = before ++ .exchanged now authorization reply :: between ++
        .exchanged now' authorization' reply' :: later →
      authorization'.code = authorization.code →
        reply' = .returned (.error (.exchange "unknown or reused code")) ∨
          authorization.code ∉ codes before ∧ authorization.code ∈ codes between
  /-- If nobody guesses, it is refused without exception. -/
  closed : Unguessed r.history →
    ∀ before now authorization reply between now' authorization' reply' later,
      r.history = before ++ .exchanged now authorization reply :: between ++
          .exchanged now' authorization' reply' :: later →
        authorization'.code = authorization.code →
          reply' = .returned (.error (.exchange "unknown or reused code"))
  /-- A token carries the nonce that was settled when its code was given out. -/
  carried : ∀ before now authorization token later,
    r.history = before ++ .exchanged now authorization (.returned (.ok token)) :: later →
      ∃ first request nonce? since,
        before = first ++ .granted request authorization.code :: since ∧
        Granted draws first request authorization.code nonce? ∧
        (FitsClock now → Token.unverifiedNonce token = .ok nonce?)

/-- The nonce of a token that was obtained. It is the one that was settled at the request, so what
is told to the issuer later changes nothing about it. -/
theorem carried_of_history {token : String}
    (split : (run draws calls).history =
      before ++ .exchanged now authorization (.returned (.ok token)) :: later) :
    ∃ first request nonce? since, before = first ++ .granted request authorization.code :: since ∧
      Granted draws first request authorization.code nonce? ∧
      (FitsClock now → Token.unverifiedNonce token = .ok nonce?) := by
  have answers := answers_of_history split
  generalize asked : (Reply.returned (.ok token) : Reply String) = reply at answers
  cases answers with
  | refused closed => cases asked
  | failed opened served fails => cases asked
  | @token issued e opened served serves =>
    obtain rfl := Except.ok.inj (Reply.returned.inj asked)
    obtain ⟨first, request, since, rfl, -, granted, -⟩ := opened
    exact ⟨first, request, issued.nonce?, since, rfl, granted,
      fun clock => unverifiedNonce_claims clock issued.nonce?⟩

/-- Whatever is done with the client, in any order, as long as it gives no code out twice: requests
are listed and exchanges counted as they are made, each code is exchanged for one token at most and
refused once it was handed in, and a token carries the nonce that was settled when its code was
given out. -/
theorem run_redeems_once (distinct : (codes (run draws calls).history).Nodup) :
    (run draws calls).Faithful draws calls := by
  have tracks := tracks_run draws calls
  have made := map_call_run draws calls
  refine {
    made := made
    requests := ?requests
    exchanges := ?exchanges
    replies := fun _ _ _ _ => replies_of_history
    answers := fun _ _ _ _ _ => answers_of_history
    once := nodup_redeemed distinct
    spent := ?spent
    closed := ?closed
    carried := fun _ _ _ _ _ => carried_of_history }
  case requests =>
    calc (run draws calls).state.requests
        = ((run draws calls).history.map Event.call).filterMap Call.request? := by
          rw [tracks.requests, List.filterMap_map]
          rfl
      _ = calls.filterMap Call.request? := by rw [made]
  case exchanges =>
    calc (run draws calls).state.exchanges
        = ((run draws calls).history.map Event.call).countP Call.isExchange := by
          rw [tracks.exchanges, List.countP_map]
          rfl
      _ = calls.countP Call.isExchange := by rw [made]
  case spent =>
    intro before now authorization reply between now' authorization' reply' later split same
    rw [← same]
    exact refused_of_handedIn distinct split (same ▸ rfl)
  case closed =>
    intro unguessed before now authorization reply between now' authorization' reply' later split
      same
    exact refused_of_unguessed distinct unguessed split (same ▸ rfl)

/-- Two requests are granted and one in between is left waiting. The provider replays the nonce of
the first, and is told to be honest again before the exchange. -/
theorem run_redeems_once_replayed :
    let issuer : Issuer := ⟨"https://id.example.com", "key-1", [1, 2, 3]⟩
    let provider : Provider := issuer.provider "Example" "client"
    let draws : Draws := {
      code := fun i => if i = 0 then "first" else "second"
      trueNonce := fun i => ⟨Bytes.bigEndian 32 i, Bytes.length_bigEndian 32 i⟩ }
    let requests : List AuthorizationRequest :=
      ["n1", "n2", "n3"].map fun nonce => .ofNonce provider nonce "state"
    let second : Authorization := ⟨provider, "second", "state"⟩
    let calls : List Call := [
      .register "Example" issuer "alice@example.com", .authorize (.ofNonce provider "n1" "state"),
      .setBehavior "Example" .hang, .authorize (.ofNonce provider "n2" "state"),
      .setBehavior "Example" .replayPrevious, .authorize (.ofNonce provider "n3" "state"),
      .setBehavior "Example" .honest, .exchange 1700000000 second, .exchange 1700000001 second]
    let r := run draws calls
    (codes r.history).Nodup ∧ r.Faithful draws calls ∧ r.state.requests = requests ∧
      r.state.exchanges = 2 ∧
      ∃ before token reply,
        r.history = before ++ .exchanged 1700000000 second (.returned (.ok token)) :: [] ++
          [.exchanged 1700000001 second reply] ∧
        Token.unverifiedNonce token = .ok (some "n1") ∧
        reply = .returned (.error (.exchange "unknown or reused code")) := by
  intro issuer provider draws requests second calls r
  have given : codes r.history = ["first", "second"] := rfl
  have distinct : (codes r.history).Nodup := by
    rw [given]
    decide
  have faithful : r.Faithful draws calls := run_redeems_once distinct
  let earlier := run draws (calls.take 7)
  have found : earlier.state.codes.lookup "second" = some ⟨"Example", some "n1"⟩ := rfl
  let entry : Entry := { issuer := issuer, email := "alice@example.com" }
  have served : earlier.state.entry? "Example" = some entry := rfl
  obtain ⟨token, exchanged, carried⟩ : ∃ token,
      (earlier.state.exchange 1700000000 second).1 = .returned (.ok token) ∧
        Token.unverifiedNonce token = .ok (some "n1") := by
    have clock : FitsClock 1700000000 := by decide
    refine ⟨entry.issuer.sign (State.claims entry 1700000000 "client" (some "n1")), ?_,
      unverifiedNonce_claims clock (some "n1")⟩
    simp only [State.exchange, second, found, served]
    rfl
  obtain ⟨reply, split⟩ : ∃ reply, r.history = earlier.history ++
      .exchanged 1700000000 second (earlier.state.exchange 1700000000 second).1 :: [] ++
        [.exchanged 1700000001 second reply] := ⟨_, rfl⟩
  rw [exchanged] at split
  have refused : reply = .returned (.error (.exchange "unknown or reused code")) := by
    rcases faithful.spent _ _ _ _ _ _ _ _ _ split rfl with refused | ⟨-, given⟩
    · exact refused
    · cases given
  exact ⟨distinct, faithful, faithful.requests, faithful.exchanges, earlier.history, token, reply,
    split, carried, refused⟩

end TokenBinding.Authorization.Simulated
