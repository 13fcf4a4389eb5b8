import TokenBinding.Fingerprint
import TokenBinding.Nonce.Compound
import TokenBinding.Nonce.Stretch

/-!
# The binder

Stretching is slow, and the two sides of a conversation stretch the same pair for every token. A
binder keeps the hashes it computed. An entry that is put in when there are 64 first empties the
binder, so that it never holds more.

Asking for a hash has two steps, `lookup` and `insert`, with the computation between them. Others
may look up and insert in the meantime: an entry may then be put in twice, or after the binder was
emptied, and neither shows in any hash that is returned, because an entry is only ever the hash of
its own key.
-/

namespace TokenBinding

/-- The hashes computed so far, by fingerprint and salt. -/
structure Binder where
  entries : List ((Bytes × Bytes) × FingerprintHash) := []
  deriving DecidableEq

namespace Binder

/-- How many entries there are before an insertion empties the binder. -/
def capacity : Nat := 64

/-- The number of entries. -/
def size (b : Binder) : Nat := b.entries.length

/-- The hash kept for a fingerprint and a salt. -/
def lookup (b : Binder) (fingerprint : Fingerprint) (salt : Salt) : Option FingerprintHash :=
  b.entries.lookup (fingerprint.bytes, salt.bytes)

/-- Keeps a hash, in place of the one for the same fingerprint and salt. -/
def insert (b : Binder) (fingerprint : Fingerprint) (salt : Salt) (hash : FingerprintHash) :
    Binder :=
  let key := (fingerprint.bytes, salt.bytes)
  let kept := if b.size ≥ capacity then [] else b.entries.filter fun e => e.1 ≠ key
  ⟨(key, hash) :: kept⟩

/-- The hash for a fingerprint and a salt, computed only if it is not kept. -/
def hashFor (H : Digest) (b : Binder) (fingerprint : Fingerprint) (salt : Salt) :
    FingerprintHash × Binder :=
  match b.lookup fingerprint salt with
  | some hash => (hash, b)
  | none =>
    let hash := stretch H fingerprint.bytes salt.bytes
    (hash, b.insert fingerprint salt hash)

/-- The compound nonce of a true nonce under a fingerprint and a salt. -/
def bind (H : Digest) (b : Binder) (trueNonce : TrueNonce) (fingerprint : Fingerprint)
    (salt : Salt) : CompoundNonce × Binder :=
  let r := b.hashFor H fingerprint salt
  (⟨trueNonce, r.1⟩, r.2)

/-- Checks a token's claim against the fingerprint of this side, which must never come from the
other party. A claim that is missing or is no compound nonce is refused before anything is
hashed. -/
def check (H : Digest) (b : Binder) (claim : Option String) (fingerprint : Fingerprint)
    (salt : Salt) : Except NonceError Unit × Binder :=
  match claim with
  | none => (.error .missing, b)
  | some text =>
    match CompoundNonce.parse text with
    | .error e => (.error e, b)
    | .ok nonce =>
      let r := b.hashFor H fingerprint salt
      (if nonce.hash = r.1 then .ok () else .error .mismatch, r.2)

end Binder

end TokenBinding
