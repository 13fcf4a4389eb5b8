import TokenBinding.Fingerprint
import TokenBinding.Provider
import TokenBinding.Verification.Failure

/-!
# Reports

What a pass over a bundle comes to: an outcome for every token that was checked, and the number of
tokens that could not be. An outcome names the identity that its token claims, also where the token
did not verify.
-/

namespace TokenBinding

/-- What came of one token. -/
structure Outcome where
  claimedIdentity : String
  provider : Provider
  verified : Bool
  failure? : Option VerificationFailure
  deriving Repr, DecidableEq

/-- What came of a bundle. -/
structure Report where
  outcomes : List Outcome := []
  /-- Tokens that were dropped before they could be checked. -/
  unevaluated : Nat := 0
  deriving Repr, DecidableEq

/-- Why a pass was given up. -/
inductive VerifyError where
  | identity (cause : IdentityError)
  | fingerprintUnavailable (cause : FingerprintError)
  deriving Repr, DecidableEq

/-- The wording of a pass given up. -/
def VerifyError.message : VerifyError → String
  | .identity cause => "Identity lookup failed: " ++ cause.message
  | .fingerprintUnavailable cause => "Fingerprint unavailable: " ++ cause.message

open Json (Value)

/-- A provider as a value. -/
def Provider.toValue (p : Provider) : Value :=
  .object [("display_id", .text p.displayId), ("discovery_url", .text p.discoveryUrl),
    ("client_id", .text p.clientId), ("redirect_uri", .text p.redirectUri)]

/-- An outcome as a value. -/
def Outcome.toValue (o : Outcome) : Value :=
  .object [("claimed_identity", .text o.claimedIdentity), ("provider", o.provider.toValue),
    ("verified", .bool o.verified),
    ("failure", (o.failure?.map VerificationFailure.toValue).getD .null)]

namespace Report

/-- The outcomes of the tokens that verified. -/
def verified (r : Report) : List Outcome := r.outcomes.filter Outcome.verified

/-- A report as a value. -/
def toValue (r : Report) : Value :=
  .object [("outcomes", .array (r.outcomes.map Outcome.toValue)),
    ("unevaluated", .integer r.unevaluated)]

end Report

end TokenBinding
