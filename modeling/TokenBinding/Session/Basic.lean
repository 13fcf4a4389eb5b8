import TokenBinding.Bundle
import TokenBinding.Nonce.Binder
import TokenBinding.Session.Event

/-!
# Sessions

A session is with one peer and has one salt. It produces bundles: for a selection of providers it
runs one ceremony after the other, each of which asks a provider for a token that carries a fresh
nonce, bound to the fingerprint of the session. A token is kept only if its nonce claim is, byte for
byte, the nonce that this ceremony sent; each nonce is compared once and then gone.

The fingerprint is computed when the first ceremony needs it, and then held. If it cannot be had,
the call fails before anything is asked of a provider, and a later call may succeed.

A provider that does not answer holds up the whole call (`Ending.waiting`); whoever made the call
can abandon it, and what it did to the session stays.
-/

namespace TokenBinding

/-- What a session is between calls. -/
structure Session where
  peer : PeerRef
  registry : Registry
  salt : Salt
  cell : FingerprintCell := {}
  binder : Binder := {}
  /-- How many nonces were drawn. -/
  drawn : Nat := 0
  deriving DecidableEq

namespace Session

/-- What a call works with. Nonces and opaque texts are drawn by number. -/
structure Surroundings where
  digest : Digest
  identities : IdentitySource
  fingerprints : FingerprintSource
  trueNonce : Nat → TrueNonce
  state : Nat → String

/-- What a call asks of its surroundings. -/
inductive Effect where
  | lookUp (lookup : Lookup)
  | computeFingerprint (producer recipient : PartyIdentity)
  | authorize (request : AuthorizationRequest)
  | exchange (authorization : Authorization)
  deriving Repr, DecidableEq

namespace Effect

/-- The identity that is looked up. -/
def lookup? : Effect → Option Lookup
  | lookUp lookup => some lookup
  | _ => none

/-- The request that is made. -/
def request? : Effect → Option AuthorizationRequest
  | authorize request => some request
  | _ => none

/-- Whether a code is exchanged. -/
def isExchange : Effect → Bool
  | exchange _ => true
  | _ => false

end Effect

/-! ## The fingerprint -/

/-- The fingerprint of the session, what was asked for to get it, and the session that holds it. The
local party is the producer. -/
def fingerprint (env : Surroundings) (s : Session) :
    Except SessionError Fingerprint × List Effect × Session :=
  match s.cell.value? with
  | some f => (.ok f, [], s)
  | none =>
    let lookups := (env.identities.lookups s.peer).map Effect.lookUp
    match env.identities.pair s.peer with
    | .error cause => (.error (.identity cause), lookups, s)
    | .ok (self, peer) =>
      let parties := Role.producer.order self peer
      let effects := lookups ++ [.computeFingerprint parties.1 parties.2]
      match s.cell.getOrCompute (env.fingerprints parties.1 parties.2) with
      | (.error cause, cell) =>
        (.error (.fingerprintUnavailable cause), effects, { s with cell := cell })
      | (.ok f, cell) => (.ok f, effects, { s with cell := cell })

/-- A nonce that is bound to a fingerprint, and the session that will draw another one next. -/
def freshNonce (env : Surroundings) (f : Fingerprint) (s : Session) : CompoundNonce × Session :=
  let (nonce, binder) := s.binder.bind env.digest (env.trueNonce s.drawn) f s.salt
  (nonce, { s with binder := binder, drawn := s.drawn + 1 })

/-! ## One ceremony -/

/-- Whether a token that came back may be kept. -/
def accept (pending : CompoundNonce) (token : String) : Except SessionError String :=
  match Token.unverifiedNonce token with
  | .error cause => .error (.token cause)
  | .ok none => .error .missingNonce
  | .ok (some claim) => if pending.isEchoedBy claim then .ok token else .error .nonceMismatch

/-- How a ceremony ends, unless a call to the client does not return. -/
structure CeremonyRun (σ : Type) where
  result? : Option (Except SessionError String)
  effects : List Effect
  client : σ

/-- One round trip to a provider for a nonce. -/
def ceremony {σ : Type} (client : Authorization.Client σ) (request : AuthorizationRequest)
    (pending : CompoundNonce) (c : σ) : CeremonyRun σ :=
  match client.authorize request c with
  | (.waiting, c) => ⟨none, [.authorize request], c⟩
  | (.returned (.error cause), c) =>
    ⟨some (.error (.oidc cause)), [.authorize request], c⟩
  | (.returned (.ok authorization), c) =>
    let effects := [.authorize request, .exchange authorization]
    match client.exchange authorization c with
    | (.waiting, c) => ⟨none, effects, c⟩
    | (.returned (.error cause), c) => ⟨some (.error (.oidc cause)), effects, c⟩
    | (.returned (.ok token), c) => ⟨some (accept pending token), effects, c⟩

/-! ## The queue -/

/-- How a queue of ceremonies ends. -/
inductive Ending where
  | tokens (tokens : List String)
  | error (cause : SessionError)
  | waiting
  deriving Repr, DecidableEq

/-- What a queue of ceremonies, or a whole call, comes to. -/
structure Run (α σ : Type) where
  ending : α
  events : List Event
  effects : List Effect
  session : Session
  client : σ

/-- Puts one more token in front of those that the rest of the queue gives. -/
def Ending.keep (token? : Option String) : Ending → Ending
  | tokens rest => tokens (token?.toList ++ rest)
  | other => other

/-- The report of a ceremony that has ended. -/
def ceremonyEvent (provider : Provider) : Except SessionError String → Event
  | .ok _ => .produced provider.displayId
  | .error cause => .skipped provider.displayId cause

/-- Runs one ceremony for each provider, in order. -/
def runQueue {σ : Type} (env : Surroundings) (client : Authorization.Client σ) :
    List Provider → Session → σ → Run Ending σ
  | [], s, c => ⟨.tokens [], [], [], s, c⟩
  | provider :: rest, s, c =>
    match s.fingerprint env with
    | (.error cause, effects, s) => ⟨.error cause, [], effects, s, c⟩
    | (.ok f, effects, s) =>
      let (pending, drawn) := s.freshNonce env f
      let request := AuthorizationRequest.ofNonce provider pending.text (env.state s.drawn)
      let run := ceremony client request pending c
      let started := Event.starting provider.displayId
      match run.result? with
      | none => ⟨.waiting, [started], effects ++ run.effects, drawn, run.client⟩
      | some result =>
        let next := runQueue env client rest drawn run.client
        { next with
          ending := next.ending.keep result.toOption
          events := started :: ceremonyEvent provider result :: next.events
          effects := effects ++ run.effects ++ next.effects }

/-! ## Calls -/

/-- What a call gives: a bundle or an error, or nothing while it waits. -/
abbrev Produced := Option (Except SessionError Bundle)

/-- Produces a bundle with a token of each provider in a selection, as far as they can be had.
Unknown ids are passed over. -/
def produce {σ : Type} (env : Surroundings) (client : Authorization.Client σ) (ids : List String)
    (s : Session) (c : σ) : Run Produced σ :=
  let unknown := (s.registry.unknownIds ids).map Event.unknownProvider
  let run := runQueue env client (s.registry.select ids) s c
  match run.ending with
  | .tokens tokens =>
    { run with
      ending := some (.ok ⟨s.salt, tokens⟩)
      events := unknown ++ run.events ++ [.drained ids.length tokens.length] }
  | .error cause =>
    { run with ending := some (.error cause), events := unknown ++ run.events }
  | .waiting => { run with ending := none, events := unknown ++ run.events }

/-- What is left of a call that was abandoned: its result if it had come to one. -/
def abandoned (produced : Produced) : Except SessionError Bundle :=
  produced.getD (.error (.aborted "task was cancelled"))

end Session

end TokenBinding
