import TokenBinding.Authorization.Basic
import TokenBinding.Fingerprint
import TokenBinding.Log
import TokenBinding.Preview

/-!
# Errors and events of a session

Only a missing identity and a missing fingerprint end a call with an error. All other errors are
about one provider: they appear in the log, and the session goes on with the next provider.
-/

namespace TokenBinding

/-- What can go wrong in a session. -/
inductive SessionError where
  | identity (cause : IdentityError)
  | fingerprintUnavailable (cause : FingerprintError)
  | oidc (cause : AuthorizationError)
  | token (cause : PreviewError)
  | missingNonce
  | nonceMismatch
  | aborted (reason : String)
  deriving Repr, DecidableEq

/-- The wording of an error. -/
def SessionError.message : SessionError → String
  | .identity cause => "Identity lookup failed: " ++ cause.message
  | .fingerprintUnavailable cause => "Fingerprint unavailable: " ++ cause.message
  | .oidc cause => "OIDC client error: " ++ cause.message
  | .token cause => "Returned token unreadable: " ++ cause.message
  | .missingNonce => "Returned token carries no nonce"
  | .nonceMismatch => "Returned token nonce does not match the request"
  | .aborted reason => "Ceremony task aborted: " ++ reason

namespace Session

/-- What a session reports. Providers are named by their display ids. -/
inductive Event where
  | unknownProvider (id : String)
  | starting (provider : String)
  | produced (provider : String)
  | skipped (provider : String) (cause : SessionError)
  | drained (selected produced : Nat)
  deriving Repr, DecidableEq

/-- The record of an event. -/
def Event.record : Event → Log.Record
  | unknownProvider id =>
    ⟨.warn, "ignoring unknown provider selection", [("provider", .text id)]⟩
  | starting provider => ⟨.debug, "starting authorization", [("provider", .text provider)]⟩
  | produced provider => ⟨.info, "ceremony produced token", [("provider", .text provider)]⟩
  | skipped provider cause =>
    ⟨.warn, "skipping provider", [("provider", .text provider), ("error", .text cause.message)]⟩
  | drained selected count =>
    ⟨.info, "ceremony queue drained",
      [("selected", .count selected), ("produced", .count count)]⟩

end Session

end TokenBinding
