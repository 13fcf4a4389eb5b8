import TokenBinding.Authorization.Basic
import TokenBinding.Text.Base64
import TokenBinding.Text.Segments

/-!
# A scripted client

A client that follows a script for each provider, down to the text of the token: for trying out
what a session does with tokens that no honest provider would give out. The code of an authorization
is the nonce that was asked for.

In the text of a payload, `$NONCE` stands for that nonce, and `$TRUE` and `$HASH` for its two
halves.
-/

namespace TokenBinding.Authorization.Scripted

/-- What a provider does. An empty script authorizes and then has no token. -/
structure Script where
  /-- Why the authorization fails; `cancel` if the user backs out. -/
  authorize? : Option String := none
  /-- Why the exchange fails. -/
  exchange? : Option String := none
  /-- The token, as it is. -/
  token? : Option String := none
  /-- The text of the payload of an unsigned token. -/
  payload? : Option String := none
  /-- The text of its header. -/
  header : String := "\x7b\"alg\":\"HS256\"\x7d"
  deriving Repr, DecidableEq

structure State where
  scripts : List (String × Script) := []
  requests : List AuthorizationRequest := []
  exchanges : Nat := 0
  deriving Repr, DecidableEq

/-- Writes a text in place of every occurrence of a non-empty word. -/
def substitute (word replacement : List Char) : (fuel : Nat) → List Char → List Char
  | 0, cs => cs
  | _ + 1, [] => []
  | fuel + 1, c :: cs =>
    if word.isPrefixOf (c :: cs) then
      replacement ++ substitute word replacement fuel ((c :: cs).drop word.length)
    else c :: substitute word replacement fuel cs

/-- `substitute` on texts. -/
def fill (word replacement text : String) : String :=
  String.ofList (substitute word.toList replacement.toList text.length text.toList)

/-- The text of a payload for a nonce. -/
def fillPayload (nonce text : String) : String :=
  let halves := (Text.cut? '&' nonce.toList).getD (nonce.toList, [])
  fill "$HASH" (String.ofList halves.2)
    (fill "$TRUE" (String.ofList halves.1) (fill "$NONCE" nonce text))

/-- The token of a script. -/
def Script.token (s : Script) (nonce : String) : Except AuthorizationError String :=
  match s.exchange?, s.token?, s.payload? with
  | some reason, _, _ => .error (.exchange reason)
  | none, some token, _ => .ok token
  | none, none, some payload =>
    let part (text : String) : String := Text.Base64.encode .urlSafe (Bytes.ofText text)
    .ok (part s.header ++ "." ++ part (fillPayload nonce payload) ++ ".sig")
  | none, none, none => .error .noIdToken

namespace State

/-- The script of a provider. -/
def script (s : State) (displayId : String) : Script := (s.scripts.lookup displayId).getD {}

/-- Gives a provider a script, in place of the one it had. -/
def setScript (s : State) (displayId : String) (script : Script) : State :=
  { s with scripts := (displayId, script) :: s.scripts }

/-- Answers a request as the script has it. -/
def authorize (request : AuthorizationRequest) (s : State) : Reply Authorization × State :=
  let noted := { s with requests := s.requests ++ [request] }
  match (s.script request.provider.displayId).authorize? with
  | none => (.returned (.ok ⟨request.provider, request.nonce, request.state⟩), noted)
  | some reason =>
    (.returned (.error (if reason = "cancel" then .cancelled else .authorization reason)), noted)

/-- Answers an exchange as the script has it. -/
def exchange (a : Authorization) (s : State) : Reply String × State :=
  (.returned ((s.script a.provider.displayId).token a.code),
    { s with exchanges := s.exchanges + 1 })

end State

/-- The scripted client. -/
def client : Client State where
  authorize := State.authorize
  exchange := State.exchange

end TokenBinding.Authorization.Scripted
