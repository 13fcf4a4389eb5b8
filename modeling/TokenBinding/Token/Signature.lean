import TokenBinding.Hash.Hmac
import TokenBinding.Hash.Sha2
import TokenBinding.Token.Compact

/-!
# Signatures

The signature of a token is taken over its first two parts with the point between them. Under a
shared secret it is an authentication code, which is computed again and compared as text. Under a
public key the text is decoded first and then given to the check of the scheme.

The public-key schemes themselves come from outside: they are the parameter `PublicKeyCheck`.
-/

namespace TokenBinding.Token

/-- Whether a public key accepts a signature over a message under an algorithm. -/
abbrev PublicKeyCheck := Algorithm → VerifyingKey → (message signature : Bytes) → Bool

/-- The check that accepts nothing, where no public-key scheme is at hand. -/
def PublicKeyCheck.none : PublicKeyCheck := fun _ _ _ _ => false

/-- The authentication code of a message, for the algorithms that have one. -/
def macBytes (a : Algorithm) (secret message : Bytes) : Option Bytes :=
  match a with
  | .hs256 => some (Hash.hmac Hash.Sha2.sha256 64 secret message)
  | .hs384 => some (Hash.hmac Hash.Sha2.sha384 128 secret message)
  | .hs512 => some (Hash.hmac Hash.Sha2.sha512 128 secret message)
  | _ => none

/-- Why a signature was not accepted. -/
inductive SignatureError where
  /-- The key is of another kind than the algorithm of the header. -/
  | algorithm
  /-- The text of the signature does not decode. -/
  | base64 (cause : Text.Base64.Error)
  | mismatch
  deriving Repr, DecidableEq

/-- The wording of a refusal. -/
def SignatureError.message : SignatureError → String
  | .algorithm => "InvalidAlgorithm"
  | .base64 cause => "Base64(" ++ cause.name ++ ")"
  | .mismatch => "InvalidSignature"

/-- Checks the signature of a token under a key of the kind that its algorithm needs. -/
def checkSignature (publicKeyCheck : PublicKeyCheck) (a : Algorithm) (key : VerifyingKey)
    (parts : Compact) : Except SignatureError Unit :=
  let message := Bytes.ofText parts.message
  if key.family ≠ a.family then .error .algorithm
  else
    match key with
    | .secret secret =>
      match macBytes a secret message with
      | some mac =>
        if Text.Base64.encode .urlSafe mac = String.ofList parts.signature then .ok ()
        else .error .mismatch
      | none => .error .mismatch
    | key =>
      match Text.Base64.decode .urlSafe (String.ofList parts.signature) with
      | .error e => .error (.base64 e)
      | .ok signature =>
        if publicKeyCheck a key message signature then .ok () else .error .mismatch

/-- A token over a header and a payload, signed under a shared secret. -/
def sign (secret header payload : Bytes) : String :=
  let part (bs : Bytes) : List Char := (Text.Base64.encode .urlSafe bs).toList
  let unsigned : Compact := ⟨part header, part payload, []⟩
  let mac := Hash.hmac Hash.Sha2.sha256 64 secret (Bytes.ofText unsigned.message)
  { unsigned with signature := part mac }.text

end TokenBinding.Token
