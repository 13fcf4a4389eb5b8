import Mathlib.Data.List.Forall2
import TokenBinding.Proofs.Session.Commitment
import TokenBinding.Proofs.Session.Queue

/-!
# A session commits itself once

Between the calls of a session the identities may change, and so may what the source of fingerprints
answers: a call with what the sources have by then is a `Turn`. Each turn is all or nothing
(`Turn.AllOrNothing`), and after one that left the session with a fingerprint the turns are
`Settled`: no more is asked of the sources, and no fingerprint takes the place of the first.

Both are shown of one call, from the ways in which it can go, and carried through a sequence by what
calls preserve of a session (`sequence_forall₂`).

What it does not establish. Calls come one after the other here, as the lock of a session lets them
in; which of two that wait goes first is left open. A call that is abandoned on its way is no turn.

Main statement: `sequence_commits_once`.
-/

namespace TokenBinding.Session

variable {α β σ : Type} {env : Surroundings} {client : Authorization.Client σ} {f : Fingerprint}
  {s : Session}

/-! ## Turns -/

/-- A call, with what the sources answer by then. -/
structure Turn where
  identities : IdentitySource
  fingerprints : FingerprintSource
  ids : List String

/-- What a call is that comes after the session got its fingerprint: it asks nothing of the sources,
and is served. -/
structure Settled (client : Authorization.Client σ) (f : Fingerprint) (salt : Salt)
    (run : Run Produced σ) : Prop where
  calls : ∀ x ∈ run.effects, x.isCall = true
  served : Served client salt run
  cell : run.session.cell.value? = some f

namespace Turn

/-- What the call works with. -/
def surroundings (t : Turn) (env : Surroundings) : Surroundings :=
  { env with identities := t.identities, fingerprints := t.fingerprints }

def call (env : Surroundings) (client : Authorization.Client σ) (t : Turn) :
    Session → σ → Run Produced σ :=
  produce (t.surroundings env) client t.ids

/-- The sources have this fingerprint of a session with this peer. -/
def Gives (t : Turn) (peer : PeerRef) (f : Fingerprint) : Prop :=
  ∃ self other, t.identities.pair peer = .ok (self, other) ∧ t.fingerprints self other = .ok f

/-- The call was served, or it failed before anything was asked of the client and left the session
without a fingerprint. -/
structure AllOrNothing (H : Digest) (client : Authorization.Client σ) (s : Session) (t : Turn)
    (run : Run Produced σ) : Prop where
  outcome : Served client s.salt run ∨
    ∃ cause, run.ending = some (.error cause) ∧ cause.OfFingerprint ∧
      run.effects.filter Effect.isCall = [] ∧ run.session.cell.value? = none
  /-- A selection that names no provider needs no fingerprint. -/
  idle : (∀ id ∈ t.ids, s.registry.byDisplayId? id = none) →
    run.ending = some (.ok ⟨s.salt, []⟩) ∧ run.effects = []
  /-- It does not matter how often the fingerprint was not to be had before. -/
  given : ∀ f, t.Gives s.peer f → Served client s.salt run
  requests : ∀ request ∈ run.effects.filterMap Effect.request?,
    ∃ f, run.session.cell.value? = some f ∧ request.BoundTo H f s.salt

end Turn

variable {ids : List String} {run : Run Produced σ}

/-- A call of a session that holds its fingerprint is settled. -/
theorem Goes.settled (goes : Goes env client ids s run) (held : s.cell.value? = some f) :
    Settled client f s.salt run := by
  have got : (s.fingerprint env).1 = .ok f := by rw [fingerprint_of_held held]
  cases goes with
  | idle unknown ending effects same =>
    refine ⟨?_, .inl ⟨[], ending⟩, same ▸ held⟩
    rw [effects]
    exact nofun
  | failed cause lacking => exact absurd (got.symm.trans lacking) nofun
  | committed g got' asked served effects commits =>
    obtain rfl : f = g := Except.ok.inj (got.symm.trans got')
    exact ⟨effects held, served, commits.cell⟩

/-- A call is all or nothing, in whichever way it goes. In two of the three ways the client is not
called at all. -/
theorem Goes.allOrNothing {t : Turn} (goes : Goes (t.surroundings env) client t.ids s run) :
    t.AllOrNothing env.digest client s run := by
  cases goes with
  | idle unknown ending effects same =>
    have served : Served client s.salt run := .inl ⟨[], ending⟩
    refine ⟨.inl served, fun _ => ⟨ending, effects⟩, fun _ _ => served, ?_⟩
    rw [effects]
    exact nofun
  | failed cause lacking asked ending effects same =>
    obtain ⟨-, -, -, empty, fatal⟩ := fingerprint_eq_of_error lacking
    refine ⟨.inr ⟨cause, ending, fatal, effects, same ▸ empty⟩, ?_, ?_, ?_⟩
    · intro unknown
      exact absurd (List.filterMap_eq_nil_iff.mpr unknown) asked
    · intro f gives
      have got : (s.fingerprint (t.surroundings env)).1 = .ok f :=
        fingerprint_eq_ok_iff.mpr (.inr ⟨empty, gives⟩)
      exact absurd (got.symm.trans lacking) nofun
    · rw [filterMap_request_of_uncalled effects]
      exact nofun
  | committed f got asked served effects commits =>
    refine ⟨.inl served, ?_, fun _ _ => served, ?_⟩
    · intro unknown
      exact absurd (List.filterMap_eq_nil_iff.mpr unknown) asked
    · intro request mem
      exact ⟨f, commits.cell, commits.requests request mem⟩

/-! ## Sequences -/

/-- What calls preserve of a session, and what they come to then, the calls of a sequence do. -/
theorem sequence_forall₂ {call : α → Session → σ → Run β σ} {I : Session → Prop}
    {Q : α → Run β σ → Prop} {as : List α}
    (step : ∀ a ∈ as, ∀ s c, I s → I (call a s c).session ∧ Q a (call a s c)) {s : Session}
    (holds : I s) (c : σ) : List.Forall₂ Q as (sequence call as s c) := by
  induction as generalizing s c with
  | nil => exact .nil
  | cons a rest ih =>
    obtain ⟨preserved, comes⟩ := step a List.mem_cons_self s c holds
    exact .cons comes
      (ih (fun a mem => step a (List.mem_cons_of_mem _ mem)) preserved (call a s c).client)

/-- What every call comes to on its own holds of every run of the sequence. -/
theorem sequence_forall {call : α → Session → σ → Run β σ} {I : Session → Prop}
    {Q : Run β σ → Prop} {as : List α}
    (step : ∀ a ∈ as, ∀ s c, I s → I (call a s c).session ∧ Q (call a s c)) {s : Session}
    (holds : I s) (c : σ) : ∀ run ∈ sequence call as s c, Q run := by
  have related := sequence_forall₂ (Q := fun _ => Q) step holds c
  intro run mem
  obtain ⟨i, bound, rfl⟩ := List.getElem_of_mem mem
  exact List.Forall₂.get related (related.length_eq ▸ bound) bound

/-- The law of a call speaks of the session as it was at the start of the sequence, too. -/
theorem Turn.AllOrNothing.of_continues {H : Digest} {start s : Session} {t : Turn}
    (came : start.Continues H s) (law : t.AllOrNothing H client s run) :
    t.AllOrNothing H client start run := by
  obtain ⟨outcome, idle, given, requests⟩ := law
  rw [came.salt] at outcome requests
  rw [came.salt, came.registry] at idle
  rw [came.salt, came.peer] at given
  exact ⟨outcome, idle, given, requests⟩

/-! ## Turns in a row -/

variable {start : Session} {turns : List Turn}

/-- A call goes in one of the three ways, and the session continues through it. -/
theorem Turn.call_goes (client : Authorization.Client σ) (came : start.Continues env.digest s)
    (t : Turn) (c : σ) :
    Goes (t.surroundings env) client t.ids s (t.call env client s c) ∧
      start.Continues env.digest (t.call env client s c).session := by
  have reach : s.binder.Reachable (t.surroundings env).digest := came.binder
  have goes : Goes (t.surroundings env) client t.ids s (t.call env client s c) :=
    produce_goes reach t.ids c
  exact ⟨goes, came.trans (goes.continues reach)⟩

/-- Each call of a sequence is all or nothing. -/
theorem sequence_allOrNothing (client : Authorization.Client σ)
    (came : start.Continues env.digest s) (turns : List Turn) (c : σ) :
    List.Forall₂ (Turn.AllOrNothing env.digest client start) turns
      (sequence (Turn.call env client) turns s c) := by
  refine sequence_forall₂ (I := start.Continues env.digest) ?_ came c
  intro t _ s c came
  obtain ⟨goes, came'⟩ := t.call_goes client came c
  exact ⟨came', goes.allOrNothing.of_continues came⟩

/-- The calls of a session that holds its fingerprint are settled. -/
theorem sequence_settled (came : start.Continues env.digest s) (held : s.cell.value? = some f)
    (turns : List Turn) (c : σ) :
    ∀ run ∈ sequence (Turn.call env client) turns s c, Settled client f start.salt run := by
  refine sequence_forall
    (I := fun s => start.Continues env.digest s ∧ s.cell.value? = some f) ?_ ⟨came, held⟩ c
  intro t _ s c ⟨came, held⟩
  obtain ⟨goes, came'⟩ := t.call_goes client came c
  have settled : Settled client f s.salt (t.call env client s c) := goes.settled held
  rw [came.salt] at settled
  exact ⟨⟨came', settled.cell⟩, settled⟩

/-- After the call that got the fingerprint, all calls are settled. -/
theorem sequence_pairwise_settled (client : Authorization.Client σ)
    (came : start.Continues env.digest s) (turns : List Turn) (c : σ) :
    (sequence (Turn.call env client) turns s c).Pairwise fun run later =>
      ∀ f, run.session.cell.value? = some f → Settled client f start.salt later := by
  induction turns generalizing s c with
  | nil => exact .nil
  | cons t rest ih =>
    obtain ⟨-, came'⟩ := t.call_goes client came c
    refine .cons ?_ (ih came' _)
    intro later mem f holds
    exact sequence_settled came' holds rest _ later mem

/-- A fingerprint that the session gets to hold is one that the sources gave in one of the turns. -/
theorem sequence_given (came : start.Continues env.digest s)
    (origin : ∀ f, s.cell.value? = some f →
      start.cell.value? = some f ∨ ∃ t ∈ turns, t.Gives start.peer f) (c : σ) :
    ∀ run ∈ sequence (Turn.call env client) turns s c, ∀ f, run.session.cell.value? = some f →
      start.cell.value? = some f ∨ ∃ t ∈ turns, t.Gives start.peer f := by
  refine sequence_forall
    (I := fun s => start.Continues env.digest s ∧ ∀ f, s.cell.value? = some f →
      start.cell.value? = some f ∨ ∃ t ∈ turns, t.Gives start.peer f) ?_ ⟨came, origin⟩ c
  intro t turn s c ⟨came, origin⟩
  obtain ⟨goes, came'⟩ := t.call_goes client came c
  have origin' : ∀ f, (t.call env client s c).session.cell.value? = some f →
      start.cell.value? = some f ∨ ∃ t ∈ turns, t.Gives start.peer f := by
    intro f holds
    rcases fingerprint_eq_ok_iff.mp (goes.cell_eq_some holds) with held | ⟨-, gives⟩
    · exact origin f held
    · rw [came.peer] at gives
      exact .inr ⟨t, turn, gives⟩
  exact ⟨⟨came', origin'⟩, origin'⟩

/-- Two runs of a sequence that leave a fingerprint behind leave the same one. -/
theorem sequence_cell_unique (came : start.Continues env.digest s) (turns : List Turn) (c : σ) :
    ∀ run ∈ sequence (Turn.call env client) turns s c,
      ∀ run' ∈ sequence (Turn.call env client) turns s c, ∀ f f',
        run.session.cell.value? = some f → run'.session.cell.value? = some f' → f = f' := by
  have pairwise := sequence_pairwise_settled client came turns c
  refine List.Pairwise.forall_of_forall_of_flip ?_ (pairwise.imp ?_) (pairwise.imp ?_)
  · intro run _ f f' holds holds'
    exact Option.some.inj (holds.symm.trans holds')
  · intro run later settled f f' holds holds'
    exact Option.some.inj ((settled f holds).cell.symm.trans holds')
  · intro run later settled f f' holds holds'
    exact Option.some.inj (holds.symm.trans (settled f' holds').cell)

/-- The calls of a session in a row, whatever the sources answer by the time of each. Each call is
all or nothing. After one that left the session with a fingerprint, every call asks nothing of the
sources, and is served, and leaves that fingerprint where it is. It is one that the sources gave,
and every nonce of the whole sequence is bound to it, under the salt of the session. -/
theorem sequence_commits_once (client : Authorization.Client σ)
    (reach : s.binder.Reachable env.digest) (turns : List Turn) (c : σ) :
    List.Forall₂ (Turn.AllOrNothing env.digest client s) turns
        (sequence (Turn.call env client) turns s c) ∧
      (sequence (Turn.call env client) turns s c).Pairwise (fun run later =>
        ∀ f, run.session.cell.value? = some f → Settled client f s.salt later) ∧
      ∀ run ∈ sequence (Turn.call env client) turns s c, ∀ f,
        run.session.cell.value? = some f →
          (s.cell.value? = some f ∨ ∃ t ∈ turns, t.Gives s.peer f) ∧
          ∀ other ∈ sequence (Turn.call env client) turns s c,
            ∀ request ∈ other.effects.filterMap Effect.request?,
              request.BoundTo env.digest f s.salt := by
  have start : s.Continues env.digest s := ⟨reach, rfl, rfl, rfl⟩
  have laws := sequence_allOrNothing client start turns c
  refine ⟨laws, sequence_pairwise_settled client start turns c, ?_⟩
  intro run mem f holds
  refine ⟨sequence_given start (fun _ held => .inl held) c run mem f holds, ?_⟩
  intro other mem' request asked
  obtain ⟨i, bound, rfl⟩ := List.getElem_of_mem mem'
  have law := laws.get (laws.length_eq ▸ bound) bound
  obtain ⟨g, holds', bound⟩ := law.requests request asked
  obtain rfl : f = g := sequence_cell_unique start turns c run mem _ mem' f g holds holds'
  exact bound

/-- A client that grants every request, with its nonce for a code, and hands out the code as the
token. -/
def codeClient : Authorization.Client Unit where
  authorize request c := (.returned (.ok ⟨request.provider, request.nonce, request.state⟩), c)
  exchange authorization c := (.returned (.ok authorization.code), c)

/-- Four calls of a session with one provider: without an identity, with nothing to do, with all
that is needed, and with the sources gone again. The third gets the fingerprint, and the fourth goes
on with it. -/
theorem sequence_commits_once_codeClient :
    let provider : Provider := ⟨"id", "https://issuer.test" ++ discoverySuffix, "client", ""⟩
    let s : Session := { peer := ⟨"peer"⟩, registry := ⟨[provider]⟩, salt := ⟨[1]⟩ }
    let gone : IdentitySource := IdentityTable.source { self? := none }
    let records : IdentitySource :=
      IdentityTable.source { self? := some ⟨[1], [1]⟩, peers := [(⟨"peer"⟩, ⟨[2], [2]⟩)] }
    let env : Surroundings := {
      digest := .zeros
      identities := gone
      fingerprints := fun _ _ => .error (.computation "offline")
      trueNonce := fun i => ⟨Bytes.bigEndian 32 i, Bytes.length_bigEndian 32 i⟩
      state := fun _ => "" }
    let turns : List Turn := [
      ⟨gone, env.fingerprints, ["id"]⟩,
      ⟨gone, env.fingerprints, ["other"]⟩,
      ⟨records, fun _ _ => .ok ⟨[2]⟩, ["id"]⟩,
      ⟨gone, env.fingerprints, ["id", "id"]⟩]
    let runs := sequence (Turn.call env codeClient) turns s ()
    runs.map (fun run => run.session.cell.value?) = [none, none, some ⟨[2]⟩, some ⟨[2]⟩] ∧
      List.Forall₂ (Turn.AllOrNothing env.digest codeClient s) turns runs ∧
      ∀ run ∈ runs, ∀ request ∈ run.effects.filterMap Effect.request?,
        request.BoundTo env.digest ⟨[2]⟩ s.salt := by
  intro provider s gone records env turns runs
  have cells : runs.map (fun run => run.session.cell.value?) =
      [none, none, some ⟨[2]⟩, some ⟨[2]⟩] := by decide +kernel
  have reach : s.binder.Reachable env.digest := .empty
  obtain ⟨laws, -, bound⟩ := sequence_commits_once codeClient reach turns ()
  have mem : some ⟨[2]⟩ ∈ runs.map (fun run => run.session.cell.value?) := by simp [cells]
  obtain ⟨run, mem, holds⟩ := List.mem_map.mp mem
  exact ⟨cells, laws, (bound run mem ⟨[2]⟩ holds).2⟩

end TokenBinding.Session
