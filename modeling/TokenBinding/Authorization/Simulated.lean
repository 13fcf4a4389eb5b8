import TokenBinding.Authorization.Basic
import TokenBinding.Issuer
import TokenBinding.Nonce.Compound

/-!
# A simulated client

A client whose providers are issuers in memory, each with one user, and each told how to behave. It
counts what it is asked for, and every code it gives out can be exchanged once.

The nonce of a token is settled when its code is given out; whether the exchange fails is settled at
the exchange. Codes and stray nonces are drawn from outside (`Draws`).
-/

namespace TokenBinding.Authorization.Simulated

/-- How a provider behaves. -/
inductive Behavior where
  /-- The token carries the nonce of the request. -/
  | honest
  /-- The token carries a well-formed nonce that nobody asked for. -/
  | wrongNonce
  | omitNonce
  /-- The token carries the nonce of the request before. -/
  | replayPrevious
  /-- The user backs out. -/
  | cancel
  | failExchange
  /-- The authorization never comes to an end. -/
  | hang
  deriving Repr, DecidableEq

/-- A provider with the issuer and the user that it is to be served by. -/
structure Registration where
  displayId : String
  clientId : String
  email : String
  issuer : Issuer
  deriving Repr, DecidableEq

/-- The provider of a registration. -/
def Registration.provider (r : Registration) : Provider := r.issuer.provider r.displayId r.clientId

/-- What a registered provider is served by. -/
structure Entry where
  issuer : Issuer
  email : String
  behavior : Behavior := .honest
  deriving Repr, DecidableEq

/-- What a code stands for. -/
structure IssuedCode where
  displayId : String
  nonce? : Option String
  deriving Repr, DecidableEq

/-- Where codes and stray nonces come from. Both are drawn by number. -/
structure Draws where
  code : Nat → String
  trueNonce : Nat → TrueNonce

structure State where
  providers : List (String × Entry) := []
  codes : List (String × IssuedCode) := []
  requests : List AuthorizationRequest := []
  lastNonce? : Option String := none
  exchanges : Nat := 0
  /-- How many codes were given out. -/
  issued : Nat := 0
  deriving Repr, DecidableEq

namespace State

/-- The entry of a provider. -/
def entry? (s : State) (displayId : String) : Option Entry := s.providers.lookup displayId

/-- Sets the entry of a provider, in place of the one it had. -/
def setEntry (s : State) (displayId : String) (e : Entry) : State :=
  { s with providers := (displayId, e) :: s.providers.filter fun p => p.1 ≠ displayId }

/-- Serves a provider by an issuer, honestly. -/
def register (s : State) (displayId : String) (issuer : Issuer) (email : String) : State :=
  s.setEntry displayId { issuer := issuer, email := email }

/-- The state in which these providers are served; of two with one id, by the later. -/
def ofRegistrations (rs : List Registration) : State :=
  rs.foldl (fun s r => s.register r.displayId r.issuer r.email) {}

/-- Tells a provider how to behave. Unknown providers are told nothing. -/
def setBehavior (s : State) (displayId : String) (behavior : Behavior) : State :=
  match s.entry? displayId with
  | some e => s.setEntry displayId { e with behavior := behavior }
  | none => s

/-- The state with one more request. -/
def noteRequest (s : State) (request : AuthorizationRequest) : State :=
  { s with requests := s.requests ++ [request] }

/-- Gives out a code for a token with this nonce. -/
def grant (draws : Draws) (request : AuthorizationRequest) (nonce? : Option String) (s : State) :
    Reply Authorization × State :=
  let code := draws.code s.issued
  (.returned (.ok ⟨request.provider, code, request.state⟩),
    { s with
      codes := (code, ⟨request.provider.displayId, nonce?⟩) :: s.codes
      issued := s.issued + 1 })

/-- The nonce of a provider that goes its own way: a fresh one, bound to nothing. -/
def strayNonce (draws : Draws) (s : State) : String :=
  (⟨draws.trueNonce s.issued, .zero⟩ : CompoundNonce).text

/-- Answers a request. A provider that hangs notes the request and nothing else. -/
def authorize (draws : Draws) (request : AuthorizationRequest) (s : State) :
    Reply Authorization × State :=
  let previous := s.lastNonce?
  let noted := s.noteRequest request
  let answered := { noted with lastNonce? := some request.nonce }
  match s.entry? request.provider.displayId with
  | none =>
    (.returned (.error (.authorization ("unknown provider " ++ request.provider.displayId))),
      answered)
  | some e =>
    match e.behavior with
    | .hang => (.waiting, noted)
    | .cancel => (.returned (.error .cancelled), answered)
    | .honest => grant draws request (some request.nonce) answered
    | .failExchange => grant draws request (some request.nonce) answered
    | .wrongNonce => grant draws request (some (strayNonce draws s)) answered
    | .omitNonce => grant draws request none answered
    | .replayPrevious => grant draws request previous answered

/-- How long a token is good for, in seconds. -/
def tokenLifetime : Nat := 3600

/-- The claims of a token that is given out at a time. -/
def claims (e : Entry) (now : UInt64) (clientId : String) (nonce? : Option String) : Json.Value :=
  .object ([("iss", .text e.issuer.name), ("aud", .text clientId),
    ("sub", .text ("sub-" ++ e.email)), ("email", .text e.email), ("iat", .integer now.toNat),
    ("exp", .integer (now.toNat + tokenLifetime : Nat))] ++
    match nonce? with
    | some nonce => [("nonce", .text nonce)]
    | none => [])

/-- Exchanges a code, which is spent by that whatever comes of it. -/
def exchange (now : UInt64) (a : Authorization) (s : State) : Reply String × State :=
  let counted := { s with exchanges := s.exchanges + 1 }
  match s.codes.lookup a.code with
  | none => (.returned (.error (.exchange "unknown or reused code")), counted)
  | some issued =>
    let spent := { counted with codes := s.codes.filter fun c => c.1 ≠ a.code }
    match s.entry? issued.displayId with
    | none => (.returned (.error (.exchange "provider vanished")), spent)
    | some e =>
      if e.behavior = .failExchange then
        (.returned (.error (.exchange "token endpoint returned 500")), spent)
      else
        (.returned (.ok (e.issuer.sign (claims e now a.provider.clientId issued.nonce?))), spent)

end State

/-- The simulated client at a time. -/
def client (draws : Draws) (now : UInt64) : Client State where
  authorize := State.authorize draws
  exchange := State.exchange now

end TokenBinding.Authorization.Simulated
