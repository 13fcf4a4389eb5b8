import TokenBinding.Hash.Digest
import TokenBinding.Identity

/-!
# Fingerprints

The fingerprint of a conversation is one version byte, then 32 bytes for the producer and 32 for the
recipient. The bytes of a party are the front of a digest chain that starts from the version, the
public key and the stable identifier, and takes in the public key again in every further round.

A session needs its fingerprint once. `FingerprintCell` holds it from the first time it is computed,
and is never overwritten; a computation that fails leaves it empty.
-/

namespace TokenBinding

/-- The bytes of a fingerprint. -/
structure Fingerprint where
  bytes : Bytes
  deriving Repr, DecidableEq

namespace Fingerprint

/-- The version of the layout, the first byte of a fingerprint. -/
def version : Nat := 2

/-- Rounds for each party unless another number is asked for. -/
def defaultIterations : Nat := 5200

/-- The fingerprint in hexadecimal. -/
def toHex (f : Fingerprint) : String := Text.Hex.encode f.bytes

/-- The fingerprint in a log. -/
def description (f : Fingerprint) : String := "Fingerprint(" ++ f.toHex ++ ")"

end Fingerprint

/-- Why a fingerprint was not computed. -/
inductive FingerprintError where
  | invalidIdentity (reason : String)
  | computation (reason : String)
  deriving Repr, DecidableEq

/-- The wording of a failed computation. -/
def FingerprintError.message : FingerprintError → String
  | .invalidIdentity reason => "Invalid identity material: " ++ reason
  | .computation reason => "Fingerprint computation failed: " ++ reason

/-- A way to compute the fingerprint of a producer and a recipient. -/
abbrev FingerprintSource := PartyIdentity → PartyIdentity → Except FingerprintError Fingerprint

namespace Fingerprint

/-- What is hashed first for a party: version, public key, stable identifier. -/
def partyMessage (p : PartyIdentity) : Bytes :=
  Bytes.bigEndian 2 version ++ p.publicKey ++ p.stableId

/-- The 32 bytes of a party. No iterations count as one. -/
def partyDigest (H : Digest) (iterations : Nat) (p : PartyIdentity) : Bytes :=
  (H.chain p.publicKey (iterations - 1) (partyMessage p)).take 32

/-- The fingerprint of two parties. Both need a public key. -/
def compute (H : Digest) (iterations : Nat) : FingerprintSource := fun producer recipient =>
  if producer.publicKey = [] ∨ recipient.publicKey = [] then
    .error (.invalidIdentity "empty public key")
  else
    .ok ⟨UInt8.ofNat version :: partyDigest H iterations producer ++
      partyDigest H iterations recipient⟩

/-- The digest of a party has half the length of a digest. -/
theorem length_partyDigest (H : Digest) (iterations : Nat) (p : PartyIdentity) :
    (partyDigest H iterations p).length = 32 := by
  simp [partyDigest]

end Fingerprint

/-- The fingerprint of a session, once there is one. -/
structure FingerprintCell where
  value? : Option Fingerprint := none
  deriving Repr, DecidableEq

namespace FingerprintCell

/-- The value held, or else the computed one, which is held from now on. -/
def getOrCompute (cell : FingerprintCell) (computed : Except FingerprintError Fingerprint) :
    Except FingerprintError Fingerprint × FingerprintCell :=
  match cell.value? with
  | some f => (.ok f, cell)
  | none =>
    match computed with
    | .ok f => (.ok f, ⟨some f⟩)
    | .error e => (.error e, cell)

end FingerprintCell

end TokenBinding
