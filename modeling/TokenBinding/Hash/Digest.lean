import TokenBinding.Hash.Sha2

/-!
# The digest behind fingerprints and nonces

Fingerprints and stretched hashes are chains of one hash function. Nothing about them needs more of
it than that its results are 64 bytes long, so it is a parameter of every definition that hashes;
`Digest.sha512` is the function that both parties of a conversation run.
-/

namespace TokenBinding

/-- A hash function with results of 64 bytes. -/
structure Digest where
  hash : Bytes → Bytes
  length_hash : ∀ message, (hash message).length = 64

namespace Digest

instance : CoeFun Digest fun _ => Bytes → Bytes := ⟨hash⟩

/-- SHA-512. -/
def sha512 : Digest := ⟨Hash.Sha2.sha512, Hash.Sha2.length_sha512⟩

/-- Hashes `message`, then `rounds` times the last result followed by `suffix`. -/
def chain (H : Digest) (suffix : Bytes) : (rounds : Nat) → (message : Bytes) → Bytes
  | 0, message => H message
  | rounds + 1, message => chain H suffix rounds (H message ++ suffix)

@[simp] theorem length_chain (H : Digest) (suffix : Bytes) (rounds : Nat) (message : Bytes) :
    (H.chain suffix rounds message).length = 64 := by
  induction rounds generalizing message with
  | zero => exact H.length_hash message
  | succ rounds ih => exact ih _

/-- The messages that `chain` hashes, in order. -/
def chainMessages (H : Digest) (suffix : Bytes) : (rounds : Nat) → (message : Bytes) → List Bytes
  | 0, message => [message]
  | rounds + 1, message => message :: chainMessages H suffix rounds (H message ++ suffix)

end Digest

end TokenBinding
