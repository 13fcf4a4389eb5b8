import TokenBinding.Bundle
import TokenBinding.Log
import TokenBinding.Metadata.Basic
import TokenBinding.Preview
import TokenBinding.Verification.Failure

/-!
# Events of a pass

A pass moves through five phases and says so. In between it reports each token that it drops, and at
the end each token that it checked and the totals.
-/

namespace TokenBinding.Verification

/-- What a pass reports. Tokens are named by their place in the bundle. -/
inductive Event where
  | parsingBundle
  | malformedBundle (cause : BundleError)
  | noTokens
  | boundToFingerprint (tokens : Nat)
  | unroutable (token : Nat) (cause : PreviewError)
  | resolvingProviders (routed : Nat)
  | noMetadata (token : Nat) (provider : String) (cause : MetadataError)
  | noKeys (token : Nat) (provider : String) (cause : MetadataError)
  | verifyingTokens (resolved : Nat)
  | verified (token : Nat) (identity : String)
  | failed (token : Nat) (identity : String) (failure : VerificationFailure)
  | complete (verified evaluated unevaluated : Nat)
  | done
  deriving Repr, DecidableEq

namespace Event

open Log (Record)

/-- The record of a phase that is reached. -/
def phase (name : String) (fields : List (String × Log.FieldValue)) (message : String) : Record :=
  ⟨.debug, message, ("phase", .text name) :: fields⟩

/-- The record of an event. -/
def record : Event → Record
  | parsingBundle => phase "parsing_bundle" [] ""
  | malformedBundle cause =>
    ⟨.warn, "discarding malformed bundle", [("error", .text cause.message)]⟩
  | noTokens => phase "done" [] "bundle carries no tokens"
  | boundToFingerprint tokens => phase "bound_to_fingerprint" [("tokens", .count tokens)] ""
  | unroutable token cause =>
    ⟨.warn, "dropping token", [("token", .count token), ("error", .text cause.message)]⟩
  | resolvingProviders routed => phase "resolving_providers" [("routed", .count routed)] ""
  | noMetadata token provider cause =>
    ⟨.warn, "dropping token: metadata unavailable",
      [("token", .count token), ("provider", .text provider), ("error", .text cause.message)]⟩
  | noKeys token provider cause =>
    ⟨.warn, "dropping token: signing keys unavailable",
      [("token", .count token), ("provider", .text provider), ("error", .text cause.message)]⟩
  | verifyingTokens resolved => phase "verifying_tokens" [("resolved", .count resolved)] ""
  | verified token identity =>
    ⟨.debug, "token verified", [("token", .count token), ("identity", .text identity)]⟩
  | failed token identity failure =>
    ⟨.warn, "token failed verification",
      [("token", .count token), ("identity", .text identity), ("failure", .text failure.message)]⟩
  | complete good evaluated unevaluated =>
    ⟨.info, "verification pass complete",
      [("verified", .count good), ("evaluated", .count evaluated),
       ("unevaluated", .count unevaluated)]⟩
  | done => phase "done" [] ""

end Event

end TokenBinding.Verification
