import TokenBinding.Proofs.Nonce.Cache
import TokenBinding.Session.Basic

/-!
# Transcripts of a queue

What happens between a session and its client is written down one ceremony at a time: the provider,
the nonce that was sent, and the client's answer (`Step`). `Follows` says of such a transcript that
it is what this client did, from one of its states to another. The client may be anything; only that
its calls return is asked for (`Client.Returns`).

A queue has a transcript with one step for each provider (`runQueue_transcribes`), and everything
that the queue leaves behind can be read from it: the calls it made, the nonces it drew, and the
tokens it kept. So has a whole call (`produce_transcribes`).

What it does not establish. A client that does not return has no transcript, and of one that does
nothing is said about why it answers as it does.
-/

namespace TokenBinding

/-- The calls to this client return, whatever they are about and whatever happened before. -/
structure Authorization.Client.Returns {σ : Type} (client : Authorization.Client σ) : Prop where
  authorize : ∀ request c, ∃ result c', client.authorize request c = (.returned result, c')
  exchange : ∀ authorization c, ∃ result c',
    client.exchange authorization c = (.returned result, c')

namespace Session

/-! ## Steps -/

/-- How a client answered a request. -/
inductive Answer where
  /-- The authorization failed. -/
  | refused (cause : AuthorizationError)
  /-- The code was not exchanged. -/
  | failed (authorization : Authorization) (cause : AuthorizationError)
  | token (authorization : Authorization) (token : String)

/-- A ceremony as it went. -/
structure Step where
  provider : Provider
  pending : CompoundNonce
  state : String
  answer : Answer

namespace Step

/-- The request that was made. -/
def request (s : Step) : AuthorizationRequest := .ofNonce s.provider s.pending.text s.state

/-- The calls that were made. -/
def effects (s : Step) : List Effect :=
  match s.answer with
  | .refused _ => [.authorize s.request]
  | .failed authorization _ => [.authorize s.request, .exchange authorization]
  | .token authorization _ => [.authorize s.request, .exchange authorization]

/-- The token that the code was exchanged for. -/
def exchanged? (s : Step) : Option String :=
  match s.answer with
  | .token _ token => some token
  | _ => none

/-- Whether the nonce claim of a token, read without trust, is the nonce that was sent. -/
def Echoes (s : Step) (token : String) : Prop :=
  (Token.unverifiedNonce token).toOption = some (some s.request.nonce)

instance (s : Step) (token : String) : Decidable (s.Echoes token) :=
  inferInstanceAs (Decidable ((Token.unverifiedNonce token).toOption = some (some s.request.nonce)))

/-- The token that was exchanged, if it echoes the nonce that was sent. -/
def kept? (s : Step) : Option String := s.exchanged?.filter fun token => s.Echoes token

variable {σ : Type}

/-- The client answered in this way, and was in these states before and after. -/
def Follows (client : Authorization.Client σ) (s : Step) (c c' : σ) : Prop :=
  match s.answer with
  | .refused cause => client.authorize s.request c = (.returned (.error cause), c')
  | .failed authorization cause =>
    ∃ between, client.authorize s.request c = (.returned (.ok authorization), between) ∧
      client.exchange authorization between = (.returned (.error cause), c')
  | .token authorization token =>
    ∃ between, client.authorize s.request c = (.returned (.ok authorization), between) ∧
      client.exchange authorization between = (.returned (.ok token), c')

theorem echoes_iff {s : Step} {token : String} :
    s.Echoes token ↔ Token.unverifiedNonce token = .ok (some s.request.nonce) := by
  unfold Echoes
  cases Token.unverifiedNonce token with
  | error cause => simp only [Except.toOption, reduceCtorEq]
  | ok claim? => simp only [Except.toOption, Option.some.injEq, Except.ok.injEq]

/-- The token that is kept at a step is the one that was exchanged for the code, provided that it
echoes the step. -/
theorem kept?_eq_some_iff {s : Step} {token : String} :
    s.kept? = some token ↔
      s.exchanged? = some token ∧ Token.unverifiedNonce token = .ok (some s.request.nonce) := by
  simp only [kept?, Option.filter_eq_some_iff, decide_eq_true_eq, echoes_iff]

end Step

/-- The steps are what a client did, one after the other. -/
inductive Follows {σ : Type} (client : Authorization.Client σ) : List Step → σ → σ → Prop
  | nil (c : σ) : Follows client [] c c
  | cons {step : Step} {rest : List Step} {c between c' : σ} :
      step.Follows client c between → Follows client rest between c' →
        Follows client (step :: rest) c c'

theorem Follows.append {σ : Type} {client : Authorization.Client σ} {first later : List Step}
    {c between c' : σ} (h₁ : Follows client first c between)
    (h₂ : Follows client later between c') :
    Follows client (first ++ later) c c' := by
  induction h₁ with
  | nil => exact h₂
  | cons step _ ih => exact .cons step (ih h₂)

/-! ## One ceremony -/

/-- A token is accepted exactly if it echoes the nonce. The comparison is of texts, so it is the
claim as it is read that counts. -/
theorem toOption_accept (step : Step) (token : String) :
    (accept step.pending token).toOption = (some token).filter fun t => step.Echoes t := by
  by_cases echo : step.Echoes token
  · have read : Token.unverifiedNonce token = .ok (some step.pending.text) :=
      Step.echoes_iff.mp echo
    simp only [accept, read, CompoundNonce.isEchoedBy, beq_self_eq_true, if_true,
      Option.filter_some, echo, decide_true]
    rfl
  · have refused : (accept step.pending token).toOption = none := by
      unfold accept
      split
      · rfl
      · rfl
      · next claim read =>
        rw [if_neg]
        · rfl
        · intro same
          obtain rfl : step.pending.text = claim := eq_of_beq same
          exact echo (Step.echoes_iff.mpr read)
    simp only [refused, Option.filter_some, echo, decide_false, Bool.false_eq_true, if_false]

variable {σ : Type} {client : Authorization.Client σ}

/-- A ceremony with a client that returns goes as some step. The step says what the client answered,
and the ceremony does with it what the step says. -/
theorem ceremony_transcribes (returns : client.Returns) (provider : Provider)
    (pending : CompoundNonce) (state : String) (c : σ) :
    ∃ step : Step, step.provider = provider ∧ step.pending = pending ∧ step.state = state ∧
      ∃ result c', ceremony client (.ofNonce provider pending.text state) pending c =
          ⟨some result, step.effects, c'⟩ ∧
        step.Follows client c c' ∧ result.toOption = step.kept? := by
  obtain ⟨authorized, between, authorize⟩ :=
    returns.authorize (.ofNonce provider pending.text state) c
  cases authorized with
  | error cause =>
    refine ⟨⟨provider, pending, state, .refused cause⟩, rfl, rfl, rfl, .error (.oidc cause),
      between, ?_, authorize, rfl⟩
    simp only [ceremony, authorize]
    rfl
  | ok authorization =>
    obtain ⟨exchanged, c', exchange⟩ := returns.exchange authorization between
    cases exchanged with
    | error cause =>
      refine ⟨⟨provider, pending, state, .failed authorization cause⟩, rfl, rfl, rfl,
        .error (.oidc cause), c', ?_, ⟨between, authorize, exchange⟩, rfl⟩
      simp only [ceremony, authorize, exchange]
      rfl
    | ok token =>
      refine ⟨⟨provider, pending, state, .token authorization token⟩, rfl, rfl, rfl,
        accept pending token, c', ?_, ⟨between, authorize, exchange⟩, ?_⟩
      · simp only [ceremony, authorize, exchange]
        rfl
      · exact toOption_accept ⟨provider, pending, state, .token authorization token⟩ token

/-! ## A queue -/

/-- Whether the client is called. -/
def Effect.isCall : Effect → Bool
  | .authorize _ => true
  | .exchange _ => true
  | _ => false

/-- The session can go on: its fingerprint is to be had. -/
structure Ready (env : Surroundings) (f : Fingerprint) (s : Session) : Prop where
  binder : s.binder.Reachable env.digest
  fingerprint : (s.fingerprint env).1 = .ok f

/-- The compound nonce of a session that has this number. -/
def pendingAt (env : Surroundings) (f : Fingerprint) (salt : Salt) (i : Nat) : CompoundNonce :=
  ⟨env.trueNonce i, stretch env.digest f.bytes salt.bytes⟩

/-- The compound nonces of a session, from one number on. -/
def pendings (env : Surroundings) (f : Fingerprint) (salt : Salt) (first count : Nat) :
    List CompoundNonce :=
  (List.range' first count).map (pendingAt env f salt)

theorem length_pendings (env : Surroundings) (f : Fingerprint) (salt : Salt) (first count : Nat) :
    (pendings env f salt first count).length = count := by
  rw [pendings, List.length_map, List.length_range']

/-- The nonces of a session carry its stretched fingerprint. -/
theorem hash_of_mem_pendings {env : Surroundings} {f : Fingerprint} {salt : Salt}
    {first count : Nat} {n : CompoundNonce} (h : n ∈ pendings env f salt first count) :
    n.hash = stretch env.digest f.bytes salt.bytes := by
  obtain ⟨i, -, rfl⟩ := List.mem_map.mp h
  rfl

/-- The session once it holds its fingerprint and has drawn one more nonce. -/
def advanced (env : Surroundings) (f : Fingerprint) (s : Session) : Session :=
  (freshNonce env f { s with cell := ⟨some f⟩ }).2

variable {env : Surroundings} {f : Fingerprint} {s : Session}

/-- To look up an identity is not to call a client. -/
theorem filter_lookUps (lookups : List Lookup) :
    (lookups.map Effect.lookUp).filter Effect.isCall = [] := by
  simp [List.filter_eq_nil_iff, Effect.isCall]

/-- A fingerprint that is to be had is held from then on, and no client was called for it. -/
theorem fingerprint_eq_of_ok (h : (s.fingerprint env).1 = .ok f) :
    ∃ effects, s.fingerprint env = (.ok f, effects, { s with cell := ⟨some f⟩ }) ∧
      effects.filter Effect.isCall = [] := by
  obtain ⟨peer, registry, salt, ⟨value?⟩, binder, drawn⟩ := s
  cases value? with
  | some held =>
    simp only [fingerprint, Except.ok.injEq] at h ⊢
    subst h
    exact ⟨[], rfl, rfl⟩
  | none =>
    cases pair : env.identities.pair peer with
    | error cause => simp only [fingerprint, pair, reduceCtorEq] at h
    | ok both =>
      simp only [fingerprint, pair, FingerprintCell.getOrCompute] at h ⊢
      cases computed : env.fingerprints both.1 both.2 with
      | error cause => simp only [Role.order, computed, reduceCtorEq] at h
      | ok g =>
        simp only [Role.order, computed, Except.ok.injEq] at h ⊢
        subst h
        refine ⟨_, rfl, ?_⟩
        rw [List.filter_append, filter_lookUps]
        rfl

theorem Ready.advanced (ready : s.Ready env f) : (s.advanced env f).Ready env f :=
  ⟨Binder.bind_snd_reachable ready.binder (env.trueNonce s.drawn) f s.salt, rfl⟩

/-- A queue whose first ceremony has ended goes on with the rest. -/
theorem runQueue_cons (ready : s.Ready env f) {provider : Provider} (rest : List Provider) {c : σ}
    {result : Except SessionError String} {calls : List Effect} {between : σ}
    (ended : ceremony client
        (.ofNonce provider (pendingAt env f s.salt s.drawn).text (env.state s.drawn))
        (pendingAt env f s.salt s.drawn) c = ⟨some result, calls, between⟩) :
    ∃ silent, silent.filter Effect.isCall = [] ∧
      runQueue env client (provider :: rest) s c =
        { runQueue env client rest (s.advanced env f) between with
          ending := (runQueue env client rest (s.advanced env f) between).ending.keep
            result.toOption
          events := .starting provider.displayId :: ceremonyEvent provider result ::
            (runQueue env client rest (s.advanced env f) between).events
          effects := silent ++ calls ++
            (runQueue env client rest (s.advanced env f) between).effects } := by
  obtain ⟨silent, got, uncalled⟩ := fingerprint_eq_of_ok ready.fingerprint
  have drew : (freshNonce env f { s with cell := ⟨some f⟩ }).1 = pendingAt env f s.salt s.drawn :=
    Binder.bind_fst ready.binder (env.trueNonce s.drawn) f s.salt
  refine ⟨silent, uncalled, ?_⟩
  rw [← drew] at ended
  simp only [runQueue, got]
  rw [ended]
  rfl

/-- The steps are a transcript of a run that asked these providers: they are what the client did,
with the nonces that the session drew, and no other calls were made. -/
structure Transcribes {α : Type} (env : Surroundings) (client : Authorization.Client σ)
    (f : Fingerprint) (s : Session) (c : σ) (providers : List Provider) (steps : List Step)
    (run : Run α σ) : Prop where
  follows : Follows client steps c run.client
  providers : steps.map Step.provider = providers
  nonces : steps.map Step.pending = pendings env f s.salt s.drawn steps.length
  effects : run.effects.filter Effect.isCall = steps.flatMap Step.effects
  ready : run.session.Ready env f
  salt : run.session.salt = s.salt
  registry : run.session.registry = s.registry
  drawn : run.session.drawn = s.drawn + steps.length

/-- All that a step does is a call to the client. -/
theorem Step.filter_effects (step : Step) :
    step.effects.filter Effect.isCall = step.effects := by
  unfold Step.effects
  cases step.answer <;> rfl

/-- A queue has a transcript with one step for each provider, and keeps the tokens of its steps. The
induction is on the providers, with the client's state and the draws carried along. -/
theorem runQueue_transcribes (returns : client.Returns) (ready : s.Ready env f)
    (providers : List Provider) (c : σ) :
    ∃ steps, Transcribes env client f s c providers steps (runQueue env client providers s c) ∧
      (runQueue env client providers s c).ending = .tokens (steps.filterMap Step.kept?) := by
  induction providers generalizing s c with
  | nil =>
    refine ⟨[], ?_, rfl⟩
    exact {
      follows := .nil c
      providers := rfl
      nonces := rfl
      effects := rfl
      ready := ready
      salt := rfl
      registry := rfl
      drawn := rfl }
  | cons provider rest ih =>
    obtain ⟨step, rfl, sent, -, result, between, ended, follows, kept⟩ :=
      ceremony_transcribes returns provider (pendingAt env f s.salt s.drawn) (env.state s.drawn) c
    -- The invariant is that of `Ready`: the rest starts from the advanced session, and from the state
    -- of the client that this ceremony left.
    obtain ⟨steps, later, ending⟩ := ih ready.advanced between
    obtain ⟨silent, uncalled, unfolded⟩ := runQueue_cons ready rest ended
    refine ⟨step :: steps, ?_, ?_⟩
    · rw [unfolded]
      exact {
        follows := .cons follows later.follows
        providers := by rw [List.map_cons, later.providers]
        nonces := by
          rw [List.map_cons, sent, later.nonces]
          rfl
        effects := by
          simp only [List.filter_append, uncalled, Step.filter_effects, later.effects,
            List.nil_append, List.flatMap_cons]
        ready := later.ready
        salt := later.salt
        registry := later.registry
        drawn := by
          have next : (s.advanced env f).drawn = s.drawn + 1 := rfl
          rw [later.drawn, next, List.length_cons]
          omega }
    · rw [unfolded]
      simp only [ending, Ending.keep, kept, List.filterMap_cons]
      cases step.kept? <;> rfl

/-- A call has a transcript with one step for each selected provider, and gives the salt of the
session with the tokens of its steps. -/
theorem produce_transcribes (returns : client.Returns) (ready : s.Ready env f)
    (ids : List String) (c : σ) :
    ∃ steps,
      Transcribes env client f s c (s.registry.select ids) steps (produce env client ids s c) ∧
      (produce env client ids s c).ending =
        some (.ok ⟨s.salt, steps.filterMap Step.kept?⟩) := by
  obtain ⟨steps, queue, ending⟩ := runQueue_transcribes returns ready (s.registry.select ids) c
  refine ⟨steps, ?_, ?_⟩
  · simp only [produce, ending]
    exact ⟨queue.follows, queue.providers, queue.nonces, queue.effects, queue.ready, queue.salt,
      queue.registry, queue.drawn⟩
  · simp only [produce, ending]

end Session

end TokenBinding
