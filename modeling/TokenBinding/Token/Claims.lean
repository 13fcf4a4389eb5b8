import TokenBinding.Token.Compact

/-!
# Claims

The payload of a token is read twice over: for the claims that are wanted at this point, and for the
five registered claims that a verifier may have to check. Both readings refuse a claim that stands
twice. A wanted claim must have its type. A registered claim that cannot be read, or has another
type, counts as not present, provided that its reader gets behind the value all the same.

That depends on how far the reader looks. The reader of a time stops behind the opening bracket of
an array or object, and is behind the value if nothing else is in it. The reader of the subject
stops before the bracket. Issuer and audience are read whole first.

`readUnverified` reads wanted claims of a token whose signature nobody has checked.
-/

namespace TokenBinding.Token

open Json (Document Node Value)

/-! ## Registered claims -/

/-- Whether the reader of a time gets behind a value. -/
def passesTime : Node → Bool
  | .plain r => r.passed
  | .array items => items.isEmpty
  | .object entries => entries.isEmpty

/-- Whether the reader of the subject gets behind a value. -/
def passesSubject : Node → Bool
  | .plain r => r.passed
  | .array _ => false
  | .object _ => false

/-- Whether the reader of issuer and audience gets behind a value. -/
def passesParty (n : Node) : Bool := n.read.passed

/-- Whether a claim stands at most once, with a value that its reader gets behind. -/
def registeredOk (d : Document) (name : String) (passes : Node → Bool) : Bool :=
  match d.node? name with
  | none => false
  | some none => true
  | some (some n) => passes n

/-- Whether the reader of the registered claims gets to the end. -/
def registeredClaimsOk (d : Document) : Bool :=
  registeredOk d "exp" passesTime && registeredOk d "nbf" passesTime &&
    registeredOk d "sub" passesSubject && registeredOk d "iss" passesParty &&
    registeredOk d "aud" passesParty

/-- The values of a claim that is a text or an array of texts. Anything else is not present. -/
def oneOrMore? : Value → Option (List String)
  | .text s => some [s]
  | .array items => Document.textItems? items
  | _ => none

/-- The values of the issuer or audience claim, if it is present. -/
def registeredTexts? (d : Document) (name : String) : Option (List String) :=
  match d.member? name with
  | some (some v) => oneOrMore? v
  | _ => none

/-! ## Wanted claims -/

/-- The claim that carries the identity of the user. -/
def identityClaim : String := "email"

/-- What a token is routed by. -/
structure RoutingClaims where
  issuer? : Option String
  identity? : Option String
  deriving Repr, DecidableEq

/-- Reads the claims that a token is routed by. -/
def RoutingClaims.ofDocument? (d : Document) : Option RoutingClaims := do
  return { issuer? := ← d.textMember? "iss", identity? := ← d.textMember? identityClaim }

/-- What ties a token to a time and to a fingerprint. -/
structure BoundClaims where
  expiry? : Option UInt64
  nonce? : Option String
  deriving Repr, DecidableEq

/-- Reads the claims that tie a token to a time and to a fingerprint. -/
def BoundClaims.ofDocument? (d : Document) : Option BoundClaims := do
  return { expiry? := ← d.countMember? "exp", nonce? := ← d.textMember? "nonce" }

/-- Reads wanted claims from a payload whose registered claims can be read as well. -/
def readClaims {α : Type} (wanted : Document → Option α) (d : Document) : Except ReadError α :=
  match wanted d with
  | none => .error .json
  | some claims => if registeredClaimsOk d then .ok claims else .error .json

/-- Reads wanted claims from a token. Nothing of the token is verified. -/
def readUnverified {α : Type} (wanted : Document → Option α) (token : String) :
    Except ReadError α :=
  match Compact.split token with
  | .error e => .error e
  | .ok parts =>
    match parts.readHeader with
    | .error e => .error e
    | .ok _ =>
      match parts.readPayload with
      | .error e => .error e
      | .ok d => readClaims wanted d

end TokenBinding.Token
