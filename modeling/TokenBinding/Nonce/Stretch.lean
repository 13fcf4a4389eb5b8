import TokenBinding.Hash.Digest
import TokenBinding.Nonce.Basic

/-!
# The stretched fingerprint

A fingerprint is bound to a salt by a chain of 1024 digests. The first is taken over the salt and
the fingerprint twice over, each further one over the last digest and the fingerprint; the front of
the last is the hash. The chain makes tables over many salts expensive. It is no protection of a
secret: the fingerprint is known to whoever watches the conversation.
-/

namespace TokenBinding

/-- The number of digests in the chain. -/
def stretchRounds : Nat := 1024

/-- What is hashed first. -/
def stretchMessage (fingerprint salt : Bytes) : Bytes := salt ++ fingerprint ++ fingerprint

/-- The hash that binds a fingerprint to a salt. -/
def stretch (H : Digest) (fingerprint salt : Bytes) : FingerprintHash where
  bytes := (H.chain fingerprint (stretchRounds - 1) (stretchMessage fingerprint salt)).take 32
  length_bytes := by simp

end TokenBinding
