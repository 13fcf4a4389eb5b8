import TokenBinding.Provider
import TokenBinding.Text.Blank
import TokenBinding.Text.Quoted
import TokenBinding.Token.Claims

/-!
# Previews

A token is routed before it is verified: its unverified issuer decides which provider's keys are
fetched. A preview says whom a token claims to identify and which provider that is. It is no
decision of trust.
-/

namespace TokenBinding

/-- Why a token cannot be routed. -/
inductive PreviewError where
  | malformed (cause : Token.ReadError)
  | noIdentity
  | unknownIssuer (issuer : String)
  deriving Repr, DecidableEq

/-- The wording of a refusal. -/
def PreviewError.message : PreviewError → String
  | .malformed cause => "Malformed token: " ++ cause.message
  | .noIdentity => "Token carries no identity (email) claim"
  | .unknownIssuer issuer => "No registered provider for issuer " ++ Text.Quoted.text issuer

/-- What a token says of itself. -/
structure Preview where
  claimedIdentity : String
  issuer : String
  provider : Provider
  deriving Repr, DecidableEq

namespace Preview

/-- Routes claims. The identity must not be blank; an issuer that is absent is the empty text. -/
def ofClaims (registry : Registry) (claims : Token.RoutingClaims) : Except PreviewError Preview :=
  match claims.identity? with
  | none => .error .noIdentity
  | some identity =>
    if identity.toList.all Text.isBlank then .error .noIdentity
    else
      let issuer := claims.issuer?.getD ""
      match registry.byIssuer? issuer with
      | none => .error (.unknownIssuer issuer)
      | some provider => .ok ⟨identity, issuer, provider⟩

/-- Routes a token. -/
def ofToken (registry : Registry) (token : String) : Except PreviewError Preview :=
  match Token.readUnverified Token.RoutingClaims.ofDocument? token with
  | .error e => .error (.malformed e)
  | .ok claims => ofClaims registry claims

end Preview

namespace Token

/-- The nonce claim of a token that nobody has verified. -/
def unverifiedNonce (token : String) : Except PreviewError (Option String) :=
  match readUnverified (fun d => d.textMember? "nonce") token with
  | .error e => .error (.malformed e)
  | .ok nonce => .ok nonce

end Token

end TokenBinding
