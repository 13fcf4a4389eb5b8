import TokenBinding.Bytes

/-!
# Keyed message authentication

The construction over any hash function: the key, filled up to one block, is mixed with one of two
fixed bytes before the inner and before the outer hash. A key longer than a block is hashed first.
-/

namespace TokenBinding.Hash

/-- The key as one block. -/
def keyBlock (hash : Bytes → Bytes) (block : Nat) (key : Bytes) : Bytes :=
  let key := if key.length > block then hash key else key
  key ++ List.replicate (block - key.length) 0

/-- The authentication code of a message under a key, for a hash over blocks of `block` bytes. -/
def hmac (hash : Bytes → Bytes) (block : Nat) (key message : Bytes) : Bytes :=
  let key := keyBlock hash block key
  hash (key.map (· ^^^ 0x5c) ++ hash (key.map (· ^^^ 0x36) ++ message))

end TokenBinding.Hash
