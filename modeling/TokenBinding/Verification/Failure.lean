import TokenBinding.Json.Value
import TokenBinding.Nonce.Basic
import TokenBinding.Token.Signature

/-!
# Failures

Why a token that was routed did not verify. The failures stand in the order in which they are looked
for: the key, the signature, the form of the claims, the parties, the time, the nonce.
-/

namespace TokenBinding

/-- What is wrong with a signature, or with what has to be read before it can be checked. -/
inductive SignatureFault where
  /-- The header cannot be read. -/
  | header (cause : Token.ReadError)
  /-- A value of the key does not decode. -/
  | key (cause : Text.Base64.Error)
  | check (cause : Token.SignatureError)
  /-- The payload does not decode. -/
  | payload (cause : Text.Base64.Error)
  deriving Repr, DecidableEq

/-- The wording of a fault. -/
def SignatureFault.message : SignatureFault → String
  | .header cause => cause.message
  | .key cause => (Token.ReadError.base64 cause).message
  | .check cause => cause.message
  | .payload cause => (Token.SignatureError.base64 cause).message

/-- Why a token did not verify. -/
inductive VerificationFailure where
  | keyNotFound
  | signature (fault : SignatureFault)
  | malformedClaims
  | issuer
  | audience
  | expired
  | missingNonce
  | malformedNonce
  | nonceMismatch
  deriving Repr, DecidableEq

namespace VerificationFailure

/-- The failure for a nonce that was refused. -/
def ofNonceError : NonceError → VerificationFailure
  | .missing => missingNonce
  | .mismatch => nonceMismatch
  | .invalid _ => malformedNonce
  | .invalidSalt _ => malformedNonce

/-- What is added to the reason of a failure. -/
def detail? : VerificationFailure → Option String
  | signature fault => some fault.message
  | malformedClaims => some Token.ReadError.json.message
  | _ => none

/-- The short name of a failure. -/
def reason : VerificationFailure → String
  | keyNotFound => "key_not_found"
  | signature _ => "signature"
  | malformedClaims => "malformed_claims"
  | issuer => "issuer"
  | audience => "audience"
  | expired => "expired"
  | missingNonce => "missing_nonce"
  | malformedNonce => "malformed_nonce"
  | nonceMismatch => "nonce_mismatch"

/-- The wording of a failure. -/
def message : VerificationFailure → String
  | keyNotFound => "No signing key matches the token"
  | signature fault => "Signature check failed: " ++ fault.message
  | malformedClaims => "Token claims are malformed: " ++ Token.ReadError.json.message
  | issuer => "Issuer does not match provider metadata"
  | audience => "Audience does not match provider client id"
  | expired => "Token expired"
  | missingNonce => "Token carries no nonce"
  | malformedNonce => "Token nonce is malformed"
  | nonceMismatch => "Nonce is not bound to the local fingerprint"

/-- The failure as a value: its reason, and its detail if it has one. -/
def toValue (f : VerificationFailure) : Json.Value :=
  .object (("reason", .text f.reason) ::
    match f.detail? with
    | some detail => [("detail", .text detail)]
    | none => [])

end VerificationFailure

end TokenBinding
