import TokenBinding.Proofs.Nonce.Spelling
import TokenBinding.Proofs.Session.Transcript

/-!
# How a call comes by its fingerprint

A session asks for its fingerprint before every ceremony. The first time that it gets one it holds
it, and from then on nothing is asked for it any more; a fingerprint that is not to be had leaves
the session as it was. So a queue fails at its first ceremony or not at all: from the first on it is
the queue of a session that holds its fingerprint (`runQueue_eq_of_ok`), and that one does not fail
and sends no nonce that is not bound to it (`runQueue_of_held`).

That leaves a call three ways to go, and `Goes` says of each what it does to the session and its
surroundings.

Main statement: `produce_goes`.
-/

namespace TokenBinding

/-- The nonce of the request is a compound nonce with this fingerprint in it, stretched under this
salt. -/
def AuthorizationRequest.BoundTo (H : Digest) (f : Fingerprint) (salt : Salt)
    (request : AuthorizationRequest) : Prop :=
  ∃ nonce, CompoundNonce.parse request.nonce = .ok nonce ∧
    nonce.hash = stretch H f.bytes salt.bytes

/-- The error is that the fingerprint is not to be had. -/
def SessionError.OfFingerprint (e : SessionError) : Prop :=
  (∃ cause, e = .identity cause) ∨ ∃ cause, e = .fingerprintUnavailable cause

namespace Session

variable {α β σ : Type} {env : Surroundings} {client : Authorization.Client σ} {f : Fingerprint}
  {s : Session}

/-! ## The fingerprint -/

/-- A fingerprint that is held is given out, and nothing is asked for it. -/
theorem fingerprint_of_held (held : s.cell.value? = some f) :
    s.fingerprint env = (.ok f, [], s) := by
  simp only [fingerprint, held]

/-- A fingerprint that is not to be had leaves the session as it was. The next call asks for it
again. -/
theorem fingerprint_eq_of_error {cause : SessionError}
    (h : (s.fingerprint env).1 = .error cause) :
    ∃ effects, s.fingerprint env = (.error cause, effects, s) ∧
      effects.filter Effect.isCall = [] ∧ s.cell.value? = none ∧ cause.OfFingerprint := by
  obtain ⟨peer, registry, salt, ⟨value?⟩, binder, drawn⟩ := s
  cases value? with
  | some held => simp only [fingerprint, reduceCtorEq] at h
  | none =>
    cases pair : env.identities.pair peer with
    | error missing =>
      simp only [fingerprint, pair, Except.error.injEq] at h ⊢
      subst h
      exact ⟨_, rfl, filter_lookUps _, trivial, .inl ⟨missing, rfl⟩⟩
    | ok both =>
      obtain ⟨self, other⟩ := both
      cases computed : env.fingerprints self other with
      | error failed =>
        simp only [fingerprint, pair, Role.order, FingerprintCell.getOrCompute, computed,
          Except.error.injEq] at h ⊢
        subst h
        refine ⟨_, rfl, ?_, trivial, .inr ⟨failed, rfl⟩⟩
        rw [List.filter_append, filter_lookUps]
        rfl
      | ok g =>
        simp only [fingerprint, pair, Role.order, FingerprintCell.getOrCompute, computed,
          reduceCtorEq] at h

/-- A session has the fingerprint that it holds, or else the one that the sources give. What it
holds comes first, so the sources have no say after the first time. -/
theorem fingerprint_eq_ok_iff :
    (s.fingerprint env).1 = .ok f ↔
      s.cell.value? = some f ∨ s.cell.value? = none ∧ ∃ self other,
        env.identities.pair s.peer = .ok (self, other) ∧ env.fingerprints self other = .ok f := by
  obtain ⟨peer, registry, salt, ⟨value?⟩, binder, drawn⟩ := s
  cases value? with
  | some held =>
    simp only [fingerprint, Except.ok.injEq, Option.some.injEq, reduceCtorEq, false_and, or_false]
  | none =>
    cases pair : env.identities.pair peer with
    | error missing => simp [fingerprint, pair]
    | ok both =>
      obtain ⟨self, other⟩ := both
      cases computed : env.fingerprints self other with
      | error failed =>
        simp [fingerprint, pair, Role.order, FingerprintCell.getOrCompute, computed]
      | ok g =>
        simp [fingerprint, pair, Role.order, FingerprintCell.getOrCompute, computed, and_assoc]

/-! ## Queues of a session that holds its fingerprint -/

/-- The session after some calls: it may have drawn nonces and got its fingerprint. -/
structure Continues (H : Digest) (s later : Session) : Prop where
  binder : later.binder.Reachable H
  peer : later.peer = s.peer
  registry : later.registry = s.registry
  salt : later.salt = s.salt

theorem Continues.trans {H : Digest} {s s' s'' : Session} (first : s.Continues H s')
    (later : s'.Continues H s'') : s.Continues H s'' :=
  ⟨later.binder, later.peer.trans first.peer, later.registry.trans first.registry,
    later.salt.trans first.salt⟩

/-- The run left the session with this fingerprint, and all its nonces are bound to it. -/
structure Committed (H : Digest) (f : Fingerprint) (s : Session) (run : Run α σ) : Prop where
  requests : ∀ request ∈ run.effects.filterMap Effect.request?, request.BoundTo H f s.salt
  cell : run.session.cell.value? = some f
  continues : s.Continues H run.session

/-- A ceremony asks its provider once, and then at most for the exchange of the code. -/
theorem effects_ceremony (client : Authorization.Client σ) (request : AuthorizationRequest)
    (pending : CompoundNonce) (c : σ) :
    (∀ x ∈ (ceremony client request pending c).effects, x.isCall = true) ∧
      (ceremony client request pending c).effects.filterMap Effect.request? = [request] := by
  unfold ceremony
  split
  · exact ⟨List.forall_mem_singleton.mpr rfl, rfl⟩
  · exact ⟨List.forall_mem_singleton.mpr rfl, rfl⟩
  · dsimp only
    split <;> exact ⟨List.forall_mem_cons.mpr ⟨rfl, List.forall_mem_singleton.mpr rfl⟩, rfl⟩

/-- A nonce is drawn with the fingerprint in it. The session notes the draw, and is the same in all
other ways but for what its binder has cached. -/
theorem freshNonce_of_reachable (reach : s.binder.Reachable env.digest) (f : Fingerprint) :
    ∃ binder, s.freshNonce env f =
        (pendingAt env f s.salt s.drawn, { s with binder := binder, drawn := s.drawn + 1 }) ∧
      binder.Reachable env.digest := by
  have drew := Binder.bind_fst reach (env.trueNonce s.drawn) f s.salt
  refine ⟨_, ?_, Binder.bind_snd_reachable reach (env.trueNonce s.drawn) f s.salt⟩
  simp only [freshNonce, pendingAt, ← drew]

/-- A request for a nonce of the session is bound to its fingerprint. -/
theorem boundTo_pendingAt (env : Surroundings) (f : Fingerprint) (salt : Salt) (i : Nat)
    (provider : Provider) (state : String) :
    (AuthorizationRequest.ofNonce provider (pendingAt env f salt i).text state).BoundTo env.digest f
      salt :=
  ⟨pendingAt env f salt i, CompoundNonce.parse_text _, rfl⟩

theorem Ending.keep_ne_error {ending : Ending} (token? : Option String)
    (h : ∀ cause, ending ≠ .error cause) (cause : SessionError) :
    ending.keep token? ≠ .error cause := by
  cases ending with
  | tokens rest => nofun
  | error cause' => exact absurd rfl (h cause')
  | waiting => nofun

/-- A queue of a session that holds its fingerprint calls the client and nothing else, keeps to the
fingerprint, and does not fail. The induction is over the providers; each ceremony is followed by
the queue of the rest, with one more nonce drawn. -/
theorem runQueue_of_held (client : Authorization.Client σ) (held : s.cell.value? = some f)
    (reach : s.binder.Reachable env.digest) (providers : List Provider) (c : σ) :
    (∀ x ∈ (runQueue env client providers s c).effects, x.isCall = true) ∧
      Committed env.digest f s (runQueue env client providers s c) ∧
      ∀ cause, (runQueue env client providers s c).ending ≠ .error cause := by
  induction providers generalizing s c with
  | nil =>
    refine ⟨List.forall_mem_nil _, ⟨List.forall_mem_nil _, held, ⟨reach, rfl, rfl, rfl⟩⟩, ?_⟩
    intro cause failed
    cases failed
  | cons provider rest ih =>
    obtain ⟨binder, drew, reach'⟩ := freshNonce_of_reachable reach f
    have bound := boundTo_pendingAt env f s.salt s.drawn provider (env.state s.drawn)
    obtain ⟨called, asked⟩ := effects_ceremony client
      (.ofNonce provider (pendingAt env f s.salt s.drawn).text (env.state s.drawn))
      (pendingAt env f s.salt s.drawn) c
    simp only [runQueue, fingerprint_of_held held, drew, List.nil_append]
    cases (ceremony client
      (.ofNonce provider (pendingAt env f s.salt s.drawn).text (env.state s.drawn))
      (pendingAt env f s.salt s.drawn) c).result? with
    | none =>
      refine ⟨called, ⟨?_, held, ⟨reach', rfl, rfl, rfl⟩⟩, ?_⟩
      · simp only [asked, List.forall_mem_singleton]
        exact bound
      · intro cause failed
        cases failed
    | some result =>
      -- The rest goes on with the binder that this ceremony left, and one more nonce drawn.
      obtain ⟨calls, later, unfailed⟩ :=
        ih (s := { s with binder := binder, drawn := s.drawn + 1 }) held reach' _
      refine ⟨?_, ⟨?_, later.cell, ?_⟩, Ending.keep_ne_error _ unfailed⟩
      · intro x mem
        rcases List.mem_append.mp mem with first | rest
        · exact called x first
        · exact calls x rest
      · intro request mem
        rw [List.filterMap_append, asked, List.singleton_append] at mem
        rcases List.mem_cons.mp mem with rfl | rest
        · exact bound
        · exact later.requests request rest
      · have drawn : s.Continues env.digest { s with binder := binder, drawn := s.drawn + 1 } :=
          ⟨reach', rfl, rfl, rfl⟩
        exact drawn.trans later.continues

/-- A queue whose first ceremony gets the fingerprint goes as if the session had held it before.
This is why a queue that fails does so at its first ceremony. -/
theorem runQueue_eq_of_ok (client : Authorization.Client σ) (got : (s.fingerprint env).1 = .ok f)
    {providers : List Provider} (asked : providers ≠ []) (c : σ) :
    ∃ silent, silent.filter Effect.isCall = [] ∧ (s.cell.value? = some f → silent = []) ∧
      runQueue env client providers s c =
        { runQueue env client providers { s with cell := ⟨some f⟩ } c with
          effects := silent ++
            (runQueue env client providers { s with cell := ⟨some f⟩ } c).effects } := by
  obtain ⟨silent, obtained, uncalled⟩ := fingerprint_eq_of_ok got
  refine ⟨silent, uncalled, ?_, ?_⟩
  · intro held
    rw [fingerprint_of_held held] at obtained
    exact (congrArg (fun x => x.2.1) obtained).symm
  · cases providers with
    | nil => exact absurd rfl asked
    | cons provider rest =>
      have held : fingerprint env { s with cell := ⟨some f⟩ } =
          (.ok f, [], { s with cell := ⟨some f⟩ }) := fingerprint_of_held rfl
      simp only [runQueue, obtained, held, List.nil_append]
      split <;> simp only [List.append_assoc]

/-- To look up an identity or to compute a fingerprint is not to make a request. -/
theorem filterMap_request_of_uncalled {effects : List Effect}
    (uncalled : effects.filter Effect.isCall = []) : effects.filterMap Effect.request? = [] := by
  rw [List.filterMap_eq_nil_iff]
  intro x mem
  have uncalled : x.isCall ≠ true := List.filter_eq_nil_iff.mp uncalled x mem
  cases x with
  | authorize request => exact absurd rfl uncalled
  | lookUp | computeFingerprint | exchange => rfl

/-! ## Calls -/

/-- The call gave a bundle under this salt, or it waits for a client whose calls need not return. -/
def Served (client : Authorization.Client σ) (salt : Salt) (run : Run Produced σ) : Prop :=
  (∃ tokens, run.ending = some (.ok ⟨salt, tokens⟩)) ∨ run.ending = none ∧ ¬client.Returns

/-- How a call can go. -/
inductive Goes (env : Surroundings) (client : Authorization.Client σ) (ids : List String)
    (s : Session) (run : Run Produced σ) : Prop
  /-- Nothing was selected. -/
  | idle (unknown : s.registry.select ids = []) (ending : run.ending = some (.ok ⟨s.salt, []⟩))
      (effects : run.effects = []) (session : run.session = s)
  /-- The fingerprint was not to be had. -/
  | failed (cause : SessionError) (lacking : (s.fingerprint env).1 = .error cause)
      (asked : s.registry.select ids ≠ [])
      (ending : run.ending = some (.error cause)) (effects : run.effects.filter Effect.isCall = [])
      (session : run.session = s)
  /-- The providers were asked. -/
  | committed (f : Fingerprint) (got : (s.fingerprint env).1 = .ok f)
      (asked : s.registry.select ids ≠ [])
      (served : Served client s.salt run)
      (effects : s.cell.value? = some f → ∀ x ∈ run.effects, x.isCall = true)
      (session : Committed env.digest f s run)

/-- A call ends as its queue does, and leaves behind what its queue does. -/
theorem produce_eq (env : Surroundings) (client : Authorization.Client σ) (ids : List String)
    (s : Session) (c : σ) :
    ∃ events, produce env client ids s c =
      { runQueue env client (s.registry.select ids) s c with
        ending := match (runQueue env client (s.registry.select ids) s c).ending with
          | .tokens tokens => some (.ok ⟨s.salt, tokens⟩)
          | .error cause => some (.error cause)
          | .waiting => none
        events := events } := by
  unfold produce
  dsimp only
  cases (runQueue env client (s.registry.select ids) s c).ending <;> exact ⟨_, rfl⟩

/-- A call that obtains the fingerprint asks its providers with it. From here on nothing can make
the call fail but a client that does not return. -/
theorem produce_goes_of_ok (ready : s.Ready env f) {ids : List String}
    (asked : s.registry.select ids ≠ []) (c : σ) :
    Goes env client ids s (produce env client ids s c) := by
  obtain ⟨silent, uncalled, held, queue⟩ := runQueue_eq_of_ok client ready.fingerprint asked c
  obtain ⟨calls, committed, unfailed⟩ :=
    runQueue_of_held client (s := { s with cell := ⟨some f⟩ }) rfl ready.binder
      (s.registry.select ids) c
  obtain ⟨events, unfolded⟩ := produce_eq env client ids s c
  rw [queue] at unfolded
  refine .committed f ready.fingerprint asked ?_ ?_ ⟨?_, ?_, ?_⟩
  · by_cases returns : client.Returns
    · obtain ⟨steps, -, ending⟩ := produce_transcribes returns ready ids c
      exact .inl ⟨_, ending⟩
    · rw [unfolded]
      unfold Served
      dsimp only
      split
      · exact .inl ⟨_, rfl⟩
      · next failed => exact absurd failed (unfailed _)
      · exact .inr ⟨rfl, returns⟩
  · intro mine x mem
    rw [unfolded, held mine] at mem
    exact calls x mem
  · intro request mem
    rw [unfolded, List.filterMap_append, filterMap_request_of_uncalled uncalled] at mem
    exact committed.requests request mem
  · rw [unfolded]
    exact committed.cell
  · rw [unfolded]
    have holds : s.Continues env.digest { s with cell := ⟨some f⟩ } :=
      ⟨ready.binder, rfl, rfl, rfl⟩
    exact holds.trans committed.continues

/-- The three ways in which a call can go: no provider is selected, the fingerprint is not to be
had, or all providers are asked with it. -/
theorem produce_goes (reach : s.binder.Reachable env.digest) (ids : List String) (c : σ) :
    Goes env client ids s (produce env client ids s c) := by
  obtain ⟨events, unfolded⟩ := produce_eq env client ids s c
  by_cases asked : s.registry.select ids = []
  · rw [unfolded, asked]
    exact .idle asked rfl rfl rfl
  · cases got : (s.fingerprint env).1 with
    | ok f => exact produce_goes_of_ok ⟨reach, got⟩ asked c
    | error cause =>
      obtain ⟨effects, lacking, uncalled, -, -⟩ := fingerprint_eq_of_error got
      obtain ⟨provider, rest, select⟩ := List.exists_cons_of_ne_nil asked
      rw [unfolded, select]
      simp only [runQueue, lacking]
      exact .failed cause got asked rfl uncalled rfl

variable {ids : List String} {run : Run Produced σ}

/-- However a production goes, the session after it continues the session before it. -/
theorem Goes.continues (goes : Goes env client ids s run) (reach : s.binder.Reachable env.digest) :
    s.Continues env.digest run.session := by
  cases goes with
  | idle unknown ending effects same =>
    rw [same]
    exact ⟨reach, rfl, rfl, rfl⟩
  | failed cause lacking asked ending effects same =>
    rw [same]
    exact ⟨reach, rfl, rfl, rfl⟩
  | committed f got asked served effects commits => exact commits.continues

/-- A fingerprint that the session holds after a call is the one that it held, or the one that the
sources gave. -/
theorem Goes.cell_eq_some (goes : Goes env client ids s run)
    (holds : run.session.cell.value? = some f) : (s.fingerprint env).1 = .ok f := by
  cases goes with
  | idle unknown ending effects same => rw [fingerprint_of_held (same ▸ holds)]
  | failed cause lacking asked ending effects same =>
    rw [fingerprint_of_held (same ▸ holds)]
  | committed g got asked served effects commits =>
    obtain rfl : g = f := Option.some.inj (commits.cell.symm.trans holds)
    exact got

end Session

end TokenBinding
