import TokenBinding.Text.Hex

/-!
# Identities

A conversation has two parties. Each is known by a stable identifier and a public key, and a party
looks up the material of the other by the name that its messenger gives it (`PeerRef`).

A fingerprint is taken over the ordered pair of the party that produced a bundle and the party that
received it. `Role` says on which side the local party stands, and `Role.order` puts the two into
that order, so that both parties compute over the same pair.

A source answers a look-up when it is asked (`IdentitySource`), and so the local identity is settled
before the other one is asked for. A source that keeps a look-up waiting is not covered: both are
awaited at once, and of two errors the one that comes first is passed on, which may then be that of
the other party.
-/

namespace TokenBinding

/-- The name that the messenger gives to the other party. -/
structure PeerRef where
  name : String
  deriving Repr, DecidableEq

/-- The identity material of a party. -/
structure PartyIdentity where
  stableId : Bytes
  publicKey : Bytes
  deriving Repr, DecidableEq

namespace PartyIdentity

/-- The identity in a log: the identifier in hexadecimal, of the key only its length. -/
def description (p : PartyIdentity) : String :=
  "PartyIdentity \x7b stable_id: \"" ++ Text.Hex.encode p.stableId ++ "\", public_key_len: " ++
    toString p.publicKey.length ++ " \x7d"

/-- What is left of identity material that was wiped. -/
def wiped : PartyIdentity := ⟨[], []⟩

end PartyIdentity

/-- On which side of a bundle the local party stands. -/
inductive Role where
  /-- The local party produced the bundle. -/
  | producer
  /-- The other party produced it, and the local party checks it. -/
  | verifier
  deriving Repr, DecidableEq

namespace Role

/-- The producer and the recipient, given the local and the other party. -/
def order (role : Role) (self peer : PartyIdentity) : PartyIdentity × PartyIdentity :=
  match role with
  | producer => (self, peer)
  | verifier => (peer, self)

/-- A role by one of its two names, in any mixture of cases. -/
def parse (s : String) : Except String Role :=
  let name := s.map Char.toLower
  if name = "producer" ∨ name = "sent" then .ok producer
  else if name = "verifier" ∨ name = "received" then .ok verifier
  else .error ("unknown role '" ++ name ++ "' (expected producer or verifier)")

end Role

/-- Why identity material is not at hand. -/
inductive IdentityError where
  | notFound (peer : PeerRef)
  | selfUnavailable (reason : String)
  deriving Repr, DecidableEq

/-- The wording of a failed look-up. -/
def IdentityError.message : IdentityError → String
  | .notFound peer => "No identity record for peer " ++ peer.name
  | .selfUnavailable reason => "Local identity unavailable: " ++ reason

/-- What the messenger answers when it is asked for identities. There is no waiting for an
answer. -/
structure IdentitySource where
  self : Except IdentityError PartyIdentity
  peer : PeerRef → Except IdentityError PartyIdentity

/-- A question to an identity source. -/
inductive Lookup where
  | self
  | peer (ref : PeerRef)
  deriving Repr, DecidableEq

/-- Whether the other party is asked for. -/
def Lookup.isPeer : Lookup → Bool
  | self => false
  | peer _ => true

namespace IdentitySource

/-- Both identities of a conversation. The local one is asked for first, and if it is not at hand
the other is not asked for at all. -/
def pair (source : IdentitySource) (peer : PeerRef) :
    Except IdentityError (PartyIdentity × PartyIdentity) :=
  match source.self with
  | .error e => .error e
  | .ok self =>
    match source.peer peer with
    | .error e => .error e
    | .ok other => .ok (self, other)

/-- The look-ups that `pair` makes. -/
def lookups (source : IdentitySource) (peer : PeerRef) : List Lookup :=
  match source.self with
  | .error _ => [.self]
  | .ok _ => [.self, .peer peer]

end IdentitySource

/-- A table of identities: the local one, if there is one, and the records of other parties. -/
structure IdentityTable where
  self? : Option PartyIdentity
  peers : List (PeerRef × PartyIdentity) := []
  /-- How often another party was looked up. -/
  lookups : Nat := 0
  deriving Repr, DecidableEq

namespace IdentityTable

/-- Drops the record of a party. -/
def erase (t : IdentityTable) (peer : PeerRef) : IdentityTable :=
  { t with peers := t.peers.filter fun r => r.1 ≠ peer }

/-- Sets the record of a party, in place of the one it had. -/
def insert (t : IdentityTable) (peer : PeerRef) (identity : PartyIdentity) : IdentityTable :=
  { t with peers := (peer, identity) :: (t.erase peer).peers }

/-- The record of a party. -/
def peer (t : IdentityTable) (peer : PeerRef) : Except IdentityError PartyIdentity :=
  match t.peers.lookup peer with
  | some identity => .ok identity
  | none => .error (.notFound peer)

/-- The table as a source of identities. -/
def source (t : IdentityTable) : IdentitySource where
  self :=
    match t.self? with
    | some identity => .ok identity
    | none => .error (.selfUnavailable "mock has no local identity")
  peer := t.peer

/-- The record of a party, and the table with this look-up counted. -/
def lookUp (t : IdentityTable) (peer : PeerRef) :
    Except IdentityError PartyIdentity × IdentityTable :=
  (t.peer peer, { t with lookups := t.lookups + 1 })

/-- The table after some more look-ups. -/
def record (t : IdentityTable) (lookups : List Lookup) : IdentityTable :=
  { t with lookups := t.lookups + lookups.countP Lookup.isPeer }

end IdentityTable

end TokenBinding
