import TokenBinding.Text.Base64
import TokenBinding.Text.Hex

/-!
# Salts, true nonces and hashes

The parts of a nonce binding. A salt belongs to a bundle and is used as it comes, whatever its
length; a true nonce is fresh for each token; the hash ties a nonce to a fingerprint. The latter two
are 32 bytes long, and that is part of their types.
-/

namespace TokenBinding

/-- Why a nonce or a salt was refused. -/
inductive NonceError where
  | invalid (reason : String)
  | invalidSalt (reason : String)
  | missing
  | mismatch
  deriving Repr, DecidableEq

/-- The wording of a refusal. -/
def NonceError.message : NonceError → String
  | .invalid reason => "Invalid compound nonce: " ++ reason
  | .invalidSalt reason => "Invalid salt encoding: " ++ reason
  | .missing => "Token carries no nonce claim"
  | .mismatch => "Nonce is not bound to the local fingerprint"

/-- The salt of a bundle. It is no secret. -/
structure Salt where
  bytes : Bytes
  deriving Repr, DecidableEq

namespace Salt

/-- The length of a salt drawn here. A salt received may have any length. -/
def freshLength : Nat := 32

/-- The salt in base64. -/
def toBase64 (s : Salt) : String := Text.Base64.encode .standard s.bytes

/-- The salt that a text spells in base64. -/
def ofBase64 (text : String) : Except NonceError Salt :=
  match Text.Base64.decode .standard text with
  | .ok bytes => .ok ⟨bytes⟩
  | .error e => .error (.invalidSalt e.message)

/-- The salt in a log. -/
def description (s : Salt) : String := "Salt(" ++ s.toBase64 ++ ")"

end Salt

/-- The random part of a compound nonce. -/
structure TrueNonce where
  bytes : Bytes
  length_bytes : bytes.length = 32
  deriving DecidableEq

namespace TrueNonce

/-- A true nonce from exactly 32 bytes. -/
def ofBytes? (bytes : Bytes) : Option TrueNonce :=
  if h : bytes.length = 32 then some ⟨bytes, h⟩ else none

/-- A true nonce in a log: its bytes are not shown. -/
def description (_ : TrueNonce) : String := "TrueNonce(..)"

end TrueNonce

/-- The front of a stretched fingerprint, the part of a compound nonce that binds it. -/
structure FingerprintHash where
  bytes : Bytes
  length_bytes : bytes.length = 32
  deriving DecidableEq

namespace FingerprintHash

/-- A hash from exactly 32 bytes. -/
def ofBytes? (bytes : Bytes) : Option FingerprintHash :=
  if h : bytes.length = 32 then some ⟨bytes, h⟩ else none

/-- The hash of zeros, which no fingerprint is known to stretch to. -/
def zero : FingerprintHash := ⟨List.replicate 32 0, by simp⟩

/-- The hash in hexadecimal. -/
def toHex (h : FingerprintHash) : String := Text.Hex.encode h.bytes

/-- The hash in a log. -/
def description (h : FingerprintHash) : String := "FingerprintHash(" ++ h.toHex ++ ")"

end FingerprintHash

end TokenBinding
