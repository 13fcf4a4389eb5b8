import TokenBinding.Provider

/-!
# Authorization

A token is obtained in two steps: the user authorizes the request at the provider, which answers
with a code, and the code is exchanged for the token. Both are the work of a client that the
messenger brings along. A `Client` may keep any state and answer anything; a call may also never
return (`Reply.waiting`), for instance while a user makes up his mind.
-/

namespace TokenBinding

/-- A request to a provider to identify the user in a token that carries this nonce. -/
structure AuthorizationRequest where
  provider : Provider
  nonce : String
  scope : String
  /-- An opaque text that comes back with the code. -/
  state : String
  deriving Repr, DecidableEq

namespace AuthorizationRequest

/-- The scope that is asked for. Its `email` puts the identity into the token. -/
def defaultScope : String := "openid email"

/-- A request with the default scope. -/
def ofNonce (provider : Provider) (nonce state : String) : AuthorizationRequest :=
  ⟨provider, nonce, defaultScope, state⟩

/-- Where the provider sends the user back to. -/
def redirectUri (r : AuthorizationRequest) : String := r.provider.redirectUri

end AuthorizationRequest

/-- A request that was granted, with the code to exchange. -/
structure Authorization where
  provider : Provider
  code : String
  state : String
  deriving Repr, DecidableEq

/-- Why a token was not obtained. -/
inductive AuthorizationError where
  | cancelled
  | authorization (reason : String)
  | exchange (reason : String)
  | noIdToken
  deriving Repr, DecidableEq

/-- The wording of a failed step. -/
def AuthorizationError.message : AuthorizationError → String
  | .cancelled => "Authorization cancelled by the user"
  | .authorization reason => "Authorization failed: " ++ reason
  | .exchange reason => "Code exchange failed: " ++ reason
  | .noIdToken => "Token response carried no ID token"

namespace Authorization

/-- What a call to a client comes to. -/
inductive Reply (α : Type) where
  | returned (result : Except AuthorizationError α)
  /-- The call has not returned, and never will. -/
  | waiting

/-- A client with state of type `σ`. -/
structure Client (σ : Type) where
  authorize : AuthorizationRequest → σ → Reply Authorization × σ
  exchange : Authorization → σ → Reply String × σ

end Authorization

end TokenBinding
