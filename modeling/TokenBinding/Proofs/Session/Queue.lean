import TokenBinding.Proofs.Authorization.IssuedToken
import TokenBinding.Proofs.Nonce.Separation
import TokenBinding.Proofs.Nonce.Spelling
import TokenBinding.Proofs.Session.Transcript

/-!
# What a session keeps, call after call

A session makes calls one after the other (`sequence`), each with the session and the client that
the last one left behind. Against a client that returns, the transcripts of the calls together are
one run of that client, and the nonces in them are the ones that the session drew, in order.

A token is kept by the step whose nonce it echoes, and the text of a compound nonce gives its true
nonce back. So if no true nonce was drawn twice, two kept tokens carry two nonces, in one call or in
two (`kept_claims_differ`): a client that answers with an earlier token gets it skipped.

What it does not establish. A client that waits is not covered, and that true nonces differ is up to
where they are drawn from. Whether a kept token is genuine is not looked at here or by the session.

Main statement: `sequence_produce_transcribed`.
-/

namespace TokenBinding.Session

/-- Runs calls one after the other. -/
def sequence {α β σ : Type} (call : α → Session → σ → Run β σ) :
    List α → Session → σ → List (Run β σ)
  | [], _, _ => []
  | a :: rest, s, c =>
    let run := call a s c
    run :: sequence call rest run.session run.client

/-- A call for a selection, with its transcript. -/
structure Call (σ : Type) where
  ids : List String
  steps : List Step
  run : Run Produced σ

/-- The call asked each selected provider in turn, and gave the tokens that were kept under this
salt. -/
structure Call.Faithful {σ : Type} (registry : Registry) (salt : Salt) (call : Call σ) : Prop where
  ending : call.run.ending = some (.ok ⟨salt, call.steps.filterMap Step.kept?⟩)
  providers : call.steps.map Step.provider = registry.select call.ids
  effects : call.run.effects.filter Effect.isCall = call.steps.flatMap Step.effects

variable {σ : Type} {env : Surroundings} {client : Authorization.Client σ} {f : Fingerprint}
  {s : Session}

/-- The pending nonces of a sequence are those of its beginning and, from where that ends, those of
its rest. -/
theorem pendings_append (first n m : Nat) :
    pendings env f s.salt first n ++ pendings env f s.salt (first + n) m =
      pendings env f s.salt first (n + m) := by
  rw [pendings, pendings, ← List.map_append, List.range'_append_1]
  rfl

/-- Steps that sent two nonces keep tokens with two nonces. -/
theorem kept_claims_differ {steps : List Step}
    (fresh : (steps.map fun step => step.pending.trueNonce).Nodup) :
    (steps.filterMap Step.kept?).Pairwise fun token token' =>
      Token.unverifiedNonce token ≠ Token.unverifiedNonce token' := by
  rw [List.pairwise_filterMap]
  refine (List.pairwise_map.mp fresh).imp ?_
  intro step step' differ token kept token' kept' same
  obtain ⟨-, claim⟩ := Step.kept?_eq_some_iff.mp kept
  obtain ⟨-, claim'⟩ := Step.kept?_eq_some_iff.mp kept'
  have texts : step.pending.text = step'.pending.text :=
    Option.some.inj (Except.ok.inj (claim.symm.trans (same.trans claim')))
  exact differ (congrArg CompoundNonce.trueNonce (CompoundNonce.text_inj texts))

/-- The calls of a session have transcripts, which together are one run of the client. Draws go on
from call to call, so the nonces of a later call are none of an earlier one. -/
theorem sequence_produce_calls (returns : client.Returns) (ready : s.Ready env f)
    (selections : List (List String)) (c : σ) :
    ∃ calls : List (Call σ), calls.map Call.ids = selections ∧
      calls.map Call.run = sequence (produce env client) selections s c ∧
      (∀ call ∈ calls, call.Faithful s.registry s.salt) ∧
      (∃ c', Follows client (calls.flatMap Call.steps) c c') ∧
      (calls.flatMap Call.steps).map Step.pending =
        pendings env f s.salt s.drawn (calls.flatMap Call.steps).length := by
  induction selections generalizing s c with
  | nil => exact ⟨[], rfl, rfl, nofun, ⟨c, .nil c⟩, rfl⟩
  | cons ids selections ih =>
    obtain ⟨steps, first, ending⟩ := produce_transcribes returns ready ids c
    obtain ⟨calls, asked, runs, faithful, ⟨c', follows⟩, nonces⟩ :=
      ih first.ready (produce env client ids s c).client
    rw [first.registry, first.salt] at faithful
    rw [first.salt, first.drawn] at nonces
    refine ⟨⟨ids, steps, produce env client ids s c⟩ :: calls, ?_, ?_, ?_, ⟨c', ?_⟩, ?_⟩
    · rw [List.map_cons, asked]
    · rw [List.map_cons, runs]
      rfl
    · intro call mem
      rcases List.mem_cons.mp mem with rfl | mem
      · exact ⟨ending, first.providers, first.effects⟩
      · exact faithful call mem
    · rw [List.flatMap_cons]
      exact first.follows.append follows
    · rw [List.flatMap_cons, List.map_append, first.nonces, nonces, List.length_append,
        pendings_append]

/-- The calls of a session against any client that returns. Each call makes one authorization for
each selected provider, in order, and behind each that succeeds one exchange, before the next
authorization; the nonces are those that the session drew, in order, well formed and bound to the
fingerprint under the salt; each call gives the salt and the exchanged tokens that echo the nonce of
their ceremony; and as long as the true nonces differ, no two tokens that were kept carry the same
nonce. -/
theorem sequence_produce_transcribed (returns : client.Returns)
    (ready : s.Ready env f) (selections : List (List String)) (c : σ) :
    ∃ calls : List (Call σ), calls.map Call.ids = selections ∧
      calls.map Call.run = sequence (produce env client) selections s c ∧
      (∀ call ∈ calls, call.Faithful s.registry s.salt) ∧
      (∃ c', Follows client (calls.flatMap Call.steps) c c') ∧
      (calls.flatMap Call.steps).map Step.pending =
        pendings env f s.salt s.drawn (calls.flatMap Call.steps).length ∧
      (∀ step ∈ calls.flatMap Call.steps,
        CompoundNonce.parse step.request.nonce = .ok step.pending ∧
          step.pending.hash = stretch env.digest f.bytes s.salt.bytes) ∧
      (((calls.flatMap Call.steps).map fun step => step.pending.trueNonce).Nodup →
        ((calls.flatMap Call.steps).filterMap Step.kept?).Pairwise fun token token' =>
          Token.unverifiedNonce token ≠ Token.unverifiedNonce token') := by
  obtain ⟨calls, asked, runs, faithful, follows, nonces⟩ :=
    sequence_produce_calls returns ready selections c
  refine ⟨calls, asked, runs, faithful, follows, nonces, ?_, kept_claims_differ⟩
  intro step mem
  have drawn : step.pending ∈ pendings env f s.salt s.drawn (calls.flatMap Call.steps).length :=
    nonces ▸ List.mem_map_of_mem mem
  exact ⟨CompoundNonce.parse_text _, hash_of_mem_pendings drawn⟩

/-! ## A client that repeats itself -/

open Authorization.Simulated (Entry FitsClock issuedToken)

/-- A client that grants every request, with its nonce for a code. The first code is exchanged for a
token that carries the nonce, and every later one for the same token again. -/
def repeatingClient (e : Entry) (now : UInt64) : Authorization.Client (Option String) where
  authorize request c := (.returned (.ok ⟨request.provider, request.nonce, request.state⟩), c)
  exchange a c :=
    let token := c.getD (issuedToken e now a.provider.clientId a.code)
    (.returned (.ok token), some token)

variable {e : Entry} {now : UInt64}

/-- Every ceremony with this client comes to an exchange. -/
theorem Step.Follows.repeating {step : Step} {c c' : Option String}
    (h : step.Follows (repeatingClient e now) c c') :
    step.exchanged? =
        some (c.getD (issuedToken e now step.provider.clientId step.pending.text)) ∧
      c' = step.exchanged? := by
  obtain ⟨provider, pending, state, answer⟩ := step
  cases answer with
  | refused cause => cases h
  | failed authorization cause =>
    obtain ⟨between, -, exchange⟩ := h
    cases exchange
  | token authorization token =>
    obtain ⟨between, authorize, exchange⟩ := h
    simp only [repeatingClient, Prod.mk.injEq, Authorization.Reply.returned.injEq,
      Except.ok.injEq] at authorize exchange
    obtain ⟨granted, rfl⟩ := authorize
    obtain ⟨rfl, rfl⟩ := exchange
    obtain rfl : authorization = ⟨provider, pending.text, state⟩ := granted.symm
    exact ⟨rfl, rfl⟩

/-- The token of the first of two ceremonies is kept there, and not where it comes again. -/
theorem Step.Follows.kept_once (clock : FitsClock now) {step step' : Step}
    {between c' : Option String}
    (went : step.Follows (repeatingClient e now) none between)
    (went' : step'.Follows (repeatingClient e now) between c')
    (apart : step.pending ≠ step'.pending) :
    ∃ token, step.exchanged? = some token ∧ step.kept? = some token ∧
      step'.exchanged? = some token ∧ step'.kept? = none := by
  let token := issuedToken e now step.provider.clientId step.pending.text
  have claim : Token.unverifiedNonce token = .ok (some step.pending.text) :=
    Authorization.Simulated.unverifiedNonce_issued clock
  obtain ⟨exchanged, rfl⟩ := went.repeating
  obtain ⟨exchanged', -⟩ := went'.repeating
  rw [exchanged, Option.getD_some] at exchanged'
  refine ⟨token, exchanged, Step.kept?_eq_some_iff.mpr ⟨exchanged, claim⟩, exchanged', ?_⟩
  refine Option.eq_none_iff_forall_not_mem.mpr fun other echo => ?_
  obtain ⟨same, claim'⟩ := Step.kept?_eq_some_iff.mp echo
  obtain rfl : token = other := Option.some.inj (exchanged'.symm.trans same)
  have texts : step.pending.text = step'.pending.text :=
    Option.some.inj (Except.ok.inj (claim.symm.trans claim'))
  exact apart (CompoundNonce.text_inj texts)

/-- Two calls against that client. The first exchanges a token that echoes its nonce, and keeps it;
the second exchanges the same token, and keeps nothing. -/
theorem sequence_produce_transcribed_repeating :
    let provider : Provider := ⟨"id", "https://issuer.test" ++ discoverySuffix, "client", ""⟩
    let s : Session := ⟨⟨"peer"⟩, ⟨[provider]⟩, ⟨[1]⟩, ⟨some ⟨[2]⟩⟩, {}, 0⟩
    let env : Surroundings := {
      digest := .zeros
      identities := IdentityTable.source { self? := none }
      fingerprints := fun _ _ => .error (.computation "offline")
      trueNonce := fun i => ⟨Bytes.bigEndian 32 i, Bytes.length_bigEndian 32 i⟩
      state := fun _ => "" }
    let client := repeatingClient
      { issuer := ⟨"https://issuer.test", "key", [1]⟩, email := "a@b" } 1700000000
    let selections := [["id"], ["other", "id"]]
    ∃ (calls : List (Call (Option String))) (token : String),
      calls.map Call.ids = selections ∧
      calls.map Call.run = sequence (produce env client) selections s none ∧
      (∀ call ∈ calls, call.Faithful s.registry s.salt) ∧
      calls.map (fun call => call.steps.map Step.exchanged?) = [[some token], [some token]] ∧
      calls.map (fun call => call.run.ending) =
        [some (.ok ⟨s.salt, [token]⟩), some (.ok ⟨s.salt, []⟩)] := by
  intro provider s env client selections
  have clock : FitsClock 1700000000 := by decide
  have returns : client.Returns := ⟨fun _ c => ⟨_, c, rfl⟩, fun _ c => ⟨_, _, rfl⟩⟩
  have ready : s.Ready env ⟨[2]⟩ := ⟨.empty, rfl⟩
  obtain ⟨calls, asked, runs, faithful, ⟨c', follows⟩, nonces, -⟩ :=
    sequence_produce_transcribed returns ready selections none
  obtain ⟨first, rest, rfl, ids, asked'⟩ := List.map_eq_cons_iff.mp asked
  obtain ⟨second, none, rfl, ids', asked''⟩ := List.map_eq_cons_iff.mp asked'
  obtain rfl := List.map_eq_nil_iff.mp asked''
  -- One provider is selected each time.
  have lawful := faithful first List.mem_cons_self
  have lawful' := faithful second (List.mem_cons_of_mem _ List.mem_cons_self)
  have providers : first.steps.map Step.provider = [provider] := by
    rw [lawful.providers, ids]
    decide
  have providers' : second.steps.map Step.provider = [provider] := by
    rw [lawful'.providers, ids']
    decide
  obtain ⟨step, one, -⟩ := List.map_eq_singleton_iff.mp providers
  obtain ⟨step', one', -⟩ := List.map_eq_singleton_iff.mp providers'
  simp only [List.flatMap_cons, List.flatMap_nil, one, one', List.append_nil,
    List.singleton_append] at follows nonces
  obtain ⟨sent, nonces⟩ := List.cons.inj nonces
  obtain ⟨sent', -⟩ := List.cons.inj nonces
  have apart : step.pending ≠ step'.pending := by
    rw [sent, sent']
    exact fun same => absurd (congrArg CompoundNonce.trueNonce same) (by decide)
  cases follows with
  | cons went follows =>
    cases follows with
    | cons went' follows =>
      obtain ⟨token, exchanged, kept, exchanged', skipped⟩ := went.kept_once clock went' apart
      refine ⟨_, token, asked, runs, faithful, ?_, ?_⟩
      · simp only [List.map_cons, List.map_nil, one, one', exchanged, exchanged']
      · simp only [List.map_cons, List.map_nil, lawful.ending, lawful'.ending, one, one',
          List.filterMap_cons, List.filterMap_nil, kept, skipped]

end TokenBinding.Session
