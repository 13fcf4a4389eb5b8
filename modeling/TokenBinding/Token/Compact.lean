import TokenBinding.Text.Segments
import TokenBinding.Token.Header

/-!
# Compact tokens

A token is three parts with `.` between them: header, payload and signature. It is cut at its last
two points, so a further point is left in the header part, where it is no base64.

Reading a part has two stages, base64 and then JSON. The header is read before the payload, and the
signature is not looked at.
-/

namespace TokenBinding.Token

/-- Why a token cannot be read. -/
inductive ReadError where
  /-- There are fewer than two points. -/
  | shape
  | base64 (cause : Text.Base64.Error)
  | json
  deriving Repr, DecidableEq

/-- The wording of a refusal. -/
def ReadError.message : ReadError → String
  | .shape => "InvalidToken"
  | .base64 cause => "Base64 error: " ++ cause.message
  | .json => "JSON error"

/-- The parts of a token, as they are written. -/
structure Compact where
  header : List Char
  payload : List Char
  signature : List Char
  deriving Repr, DecidableEq

namespace Compact

open Json (Document)

/-- What stands between two parts. -/
def separator : Char := '.'

/-- Cuts a token into its parts. -/
def split (token : String) : Except ReadError Compact :=
  match Text.cutLast? separator token.toList with
  | none => .error .shape
  | some (message, signature) =>
    match Text.cutLast? separator message with
    | none => .error .shape
    | some (header, payload) => .ok ⟨header, payload, signature⟩

/-- What the signature is taken over. -/
def message (c : Compact) : String := String.ofList (c.header ++ separator :: c.payload)

/-- The token of these parts. -/
def text (c : Compact) : String :=
  String.ofList (c.header ++ separator :: c.payload ++ separator :: c.signature)

/-- What a part encodes. -/
def readPart {α : Type} (parse? : Bytes → Option α) (part : List Char) : Except ReadError α :=
  match Text.Base64.decode .urlSafe (String.ofList part) with
  | .error e => .error (.base64 e)
  | .ok bytes =>
    match parse? bytes with
    | some a => .ok a
    | none => .error .json

/-- The header of a token. -/
def readHeader (c : Compact) : Except ReadError Header := readPart Header.parse? c.header

/-- The payload of a token, an object. -/
def readPayload (c : Compact) : Except ReadError Document := readPart Document.parse? c.payload

/-- The payload of a token, if it can be read whole. -/
def payload? (token : String) : Option Json.Value :=
  ((split token).bind readPayload).toOption.bind fun d => d.read.value?

end Compact

end TokenBinding.Token
