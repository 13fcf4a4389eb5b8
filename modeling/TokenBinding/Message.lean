import TokenBinding.Bundle
import TokenBinding.Identity
import TokenBinding.Json.Value

/-!
# Messages

A bundle travels as the body of a message. The time at which the message was sent, in whole seconds,
is a time at which its recipient may check the expiry of the tokens.
-/

namespace TokenBinding

/-- A message that carries a bundle. -/
structure OutgoingMessage where
  recipient : PeerRef
  body : String
  sentAtMillis : UInt64
  /-- After how many seconds the message disappears; never, if zero. -/
  expiresInSeconds : UInt64
  deriving Repr, DecidableEq

namespace OutgoingMessage

/-- The message that carries a bundle. -/
def ofBundle (recipient : PeerRef) (bundle : Bundle) (sentAtMillis expiresInSeconds : UInt64) :
    OutgoingMessage :=
  ⟨recipient, bundle.toWire, sentAtMillis, expiresInSeconds⟩

/-- The time at which the message was sent, in seconds. -/
def sentAtSeconds (m : OutgoingMessage) : UInt64 := m.sentAtMillis / 1000

/-- A message as a value. -/
def toValue (m : OutgoingMessage) : Json.Value :=
  .object [("recipient", .text m.recipient.name), ("body", .text m.body),
    ("sent_at_millis", .integer m.sentAtMillis.toNat),
    ("sent_at_secs", .integer m.sentAtSeconds.toNat),
    ("expires_in_secs", .integer m.expiresInSeconds.toNat)]

end OutgoingMessage

/-- Why a message was not sent. -/
inductive TransportError where
  | unknownRecipient (recipient : PeerRef)
  | unavailable (reason : String)
  deriving Repr, DecidableEq

/-- The wording of a failed transport. -/
def TransportError.message : TransportError → String
  | .unknownRecipient recipient =>
    "Recipient " ++ recipient.name ++ " cannot receive messages"
  | .unavailable reason => "Transport unavailable: " ++ reason

/-- A transport that keeps what it is given, unless it is offline. -/
structure Outbox where
  sent : List OutgoingMessage := []
  offline : Bool := false
  deriving Repr, DecidableEq

/-- Sends a message. -/
def Outbox.send (o : Outbox) (m : OutgoingMessage) : Except TransportError Unit × Outbox :=
  if o.offline then (.error (.unavailable "mock transport offline"), o)
  else (.ok (), { o with sent := o.sent ++ [m] })

end TokenBinding
