import TokenBinding.Nonce.Basic
import TokenBinding.Text.Segments

/-!
# Compound nonces

The `nonce` claim of a token is a true nonce and a hash, each in padded base64, with `&` between
them. Reading is exact: a text that is read is the text that would be written (`text`), so a pair
has one spelling only.

A ceremony keeps the compound nonce that it sent and compares it with the claim that came back,
byte for byte (`isEchoedBy`).
-/

namespace TokenBinding

/-- A true nonce together with the hash that binds it. -/
structure CompoundNonce where
  trueNonce : TrueNonce
  hash : FingerprintHash
  deriving DecidableEq

namespace CompoundNonce

/-- What stands between the two halves. -/
def separator : Char := '&'

/-- The text that is sent as the claim. -/
def text (n : CompoundNonce) : String :=
  Text.Base64.encode .standard n.trueNonce.bytes ++ String.singleton separator ++
    Text.Base64.encode .standard n.hash.bytes

/-- What is wrong with a text that is no compound nonce. -/
inductive Defect where
  | separators
  | notBase64 (half : String) (cause : Text.Base64.Error)
  | wrongLength (half : String) (got : Nat)
  deriving Repr, DecidableEq

/-- The wording of a defect. -/
def Defect.message : Defect → String
  | .separators => "expected exactly one '" ++ String.singleton separator ++ "' separator"
  | .notBase64 half cause => half ++ " is not base64: " ++ cause.message
  | .wrongLength half got => half ++ " must be 32 bytes, got " ++ toString got

/-- Reads one half: base64 of 32 bytes. -/
def decodeHalf (half : String) (text : List Char) :
    Except Defect { bytes : Bytes // bytes.length = 32 } :=
  match Text.Base64.decode .standard (String.ofList text) with
  | .error e => .error (.notBase64 half e)
  | .ok bytes =>
    if h : bytes.length = 32 then .ok ⟨bytes, h⟩ else .error (.wrongLength half bytes.length)

/-- Reads a text. The first half is looked at first. -/
def read (s : String) : Except Defect CompoundNonce :=
  match Text.segments separator s.toList with
  | [front, back] => do
    let t ← decodeHalf "true nonce" front
    let h ← decodeHalf "fingerprint hash" back
    return ⟨⟨t.1, t.2⟩, ⟨h.1, h.2⟩⟩
  | _ => .error .separators

/-- The compound nonce that a text spells. -/
def parse (s : String) : Except NonceError CompoundNonce :=
  match read s with
  | .ok n => .ok n
  | .error d => .error (.invalid d.message)

/-- Whether a claim that came back is, byte for byte, the nonce that was sent. -/
def isEchoedBy (n : CompoundNonce) (claim : String) : Bool := n.text == claim

end CompoundNonce

end TokenBinding
