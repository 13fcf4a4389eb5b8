import TokenBinding.Bytes

/-!
# The SHA-2 family

SHA-512 carries the fingerprint and the nonce binding; SHA-256, SHA-384 and SHA-512 carry the
message authentication of tokens. The two branches, of 32-bit and of 64-bit words, run the same
rounds and differ in the width of a word and the four mixing functions (`Branch`). The constants of
the narrow branch are the upper halves of the wide branch's.

What the rest of the library needs to know of a digest is its length: `length_sha512`.
-/

namespace TokenBinding.Hash.Sha2

/-- A branch of the family: its words, and how they are mixed. -/
class Branch (α : Type) extends Inhabited α, Add α, AndOp α, XorOp α, Complement α where
  /-- Bytes in a word. -/
  width : Nat
  /-- A word moved up by one byte, with this byte below. -/
  shiftIn : α → UInt8 → α
  /-- The bytes of a word, most significant first. -/
  toBytes : α → Bytes
  bigSigma0 : α → α
  bigSigma1 : α → α
  smallSigma0 : α → α
  smallSigma1 : α → α
  /-- One constant for each round. -/
  constants : List α

/-- The first 64 bits of the fractional parts of the cube roots of the first eighty primes. -/
def cubeRoots : List UInt64 :=
  [0x428a2f98d728ae22, 0x7137449123ef65cd, 0xb5c0fbcfec4d3b2f, 0xe9b5dba58189dbbc,
   0x3956c25bf348b538, 0x59f111f1b605d019, 0x923f82a4af194f9b, 0xab1c5ed5da6d8118,
   0xd807aa98a3030242, 0x12835b0145706fbe, 0x243185be4ee4b28c, 0x550c7dc3d5ffb4e2,
   0x72be5d74f27b896f, 0x80deb1fe3b1696b1, 0x9bdc06a725c71235, 0xc19bf174cf692694,
   0xe49b69c19ef14ad2, 0xefbe4786384f25e3, 0x0fc19dc68b8cd5b5, 0x240ca1cc77ac9c65,
   0x2de92c6f592b0275, 0x4a7484aa6ea6e483, 0x5cb0a9dcbd41fbd4, 0x76f988da831153b5,
   0x983e5152ee66dfab, 0xa831c66d2db43210, 0xb00327c898fb213f, 0xbf597fc7beef0ee4,
   0xc6e00bf33da88fc2, 0xd5a79147930aa725, 0x06ca6351e003826f, 0x142929670a0e6e70,
   0x27b70a8546d22ffc, 0x2e1b21385c26c926, 0x4d2c6dfc5ac42aed, 0x53380d139d95b3df,
   0x650a73548baf63de, 0x766a0abb3c77b2a8, 0x81c2c92e47edaee6, 0x92722c851482353b,
   0xa2bfe8a14cf10364, 0xa81a664bbc423001, 0xc24b8b70d0f89791, 0xc76c51a30654be30,
   0xd192e819d6ef5218, 0xd69906245565a910, 0xf40e35855771202a, 0x106aa07032bbd1b8,
   0x19a4c116b8d2d0c8, 0x1e376c085141ab53, 0x2748774cdf8eeb99, 0x34b0bcb5e19b48a8,
   0x391c0cb3c5c95a63, 0x4ed8aa4ae3418acb, 0x5b9cca4f7763e373, 0x682e6ff3d6b2b8a3,
   0x748f82ee5defb2fc, 0x78a5636f43172f60, 0x84c87814a1f0ab72, 0x8cc702081a6439ec,
   0x90befffa23631e28, 0xa4506cebde82bde9, 0xbef9a3f7b2c67915, 0xc67178f2e372532b,
   0xca273eceea26619c, 0xd186b8c721c0c207, 0xeada7dd6cde0eb1e, 0xf57d4f7fee6ed178,
   0x06f067aa72176fba, 0x0a637dc5a2c898a6, 0x113f9804bef90dae, 0x1b710b35131c471b,
   0x28db77f523047d84, 0x32caab7b40c72493, 0x3c9ebe0a15c9bebc, 0x431d67c49c100d4c,
   0x4cc5d4becb3e42b6, 0x597f299cfc657e2a, 0x5fcb6fab3ad6faec, 0x6c44198c4a475817]

/-- A word turned right by `n` bits. -/
def rotate64 (x n : UInt64) : UInt64 := (x >>> n) ||| (x <<< (64 - n))

/-- A word turned right by `n` bits. -/
def rotate32 (x n : UInt32) : UInt32 := (x >>> n) ||| (x <<< (32 - n))

/-- The bytes of a 64-bit word, most significant first. -/
def bytes64 (x : UInt64) : Bytes :=
  [(x >>> 56).toUInt8, (x >>> 48).toUInt8, (x >>> 40).toUInt8, (x >>> 32).toUInt8,
   (x >>> 24).toUInt8, (x >>> 16).toUInt8, (x >>> 8).toUInt8, x.toUInt8]

/-- The bytes of a 32-bit word, most significant first. -/
def bytes32 (x : UInt32) : Bytes :=
  [(x >>> 24).toUInt8, (x >>> 16).toUInt8, (x >>> 8).toUInt8, x.toUInt8]

instance : Branch UInt64 where
  width := 8
  shiftIn x b := (x <<< 8) ||| b.toUInt64
  toBytes := bytes64
  bigSigma0 x := rotate64 x 28 ^^^ rotate64 x 34 ^^^ rotate64 x 39
  bigSigma1 x := rotate64 x 14 ^^^ rotate64 x 18 ^^^ rotate64 x 41
  smallSigma0 x := rotate64 x 1 ^^^ rotate64 x 8 ^^^ (x >>> 7)
  smallSigma1 x := rotate64 x 19 ^^^ rotate64 x 61 ^^^ (x >>> 6)
  constants := cubeRoots

instance : Branch UInt32 where
  width := 4
  shiftIn x b := (x <<< 8) ||| b.toUInt32
  toBytes := bytes32
  bigSigma0 x := rotate32 x 2 ^^^ rotate32 x 13 ^^^ rotate32 x 22
  bigSigma1 x := rotate32 x 6 ^^^ rotate32 x 11 ^^^ rotate32 x 25
  smallSigma0 x := rotate32 x 7 ^^^ rotate32 x 18 ^^^ (x >>> 3)
  smallSigma1 x := rotate32 x 17 ^^^ rotate32 x 19 ^^^ (x >>> 10)
  constants := (cubeRoots.take 64).map fun (k : UInt64) => (k >>> 32).toUInt32

/-- The eight working words. -/
structure Registers (α : Type) where
  a : α
  b : α
  c : α
  d : α
  e : α
  f : α
  g : α
  h : α

namespace Registers

variable {α β : Type}

/-- The words in order. -/
def toList (r : Registers α) : List α := [r.a, r.b, r.c, r.d, r.e, r.f, r.g, r.h]

/-- The same function on each word. -/
def map (f : α → β) (r : Registers α) : Registers β :=
  ⟨f r.a, f r.b, f r.c, f r.d, f r.e, f r.f, f r.g, f r.h⟩

/-- The sums word by word. -/
@[specialize] def add [Add α] (r s : Registers α) : Registers α :=
  ⟨r.a + s.a, r.b + s.b, r.c + s.c, r.d + s.d, r.e + s.e, r.f + s.f, r.g + s.g, r.h + s.h⟩

/-- One round, with the round's constant and its word of the schedule. -/
@[specialize] def round [Branch α] (r : Registers α) (constant word : α) : Registers α :=
  let choice := (r.e &&& r.f) ^^^ (~~~r.e &&& r.g)
  let majority := (r.a &&& r.b) ^^^ (r.a &&& r.c) ^^^ (r.b &&& r.c)
  let first := r.h + Branch.bigSigma1 r.e + choice + constant + word
  let second := Branch.bigSigma0 r.a + majority
  ⟨first + second, r.a, r.b, r.c, r.d + first, r.e, r.f, r.g⟩

end Registers

variable {α : Type}

/-- The message with a one bit, the least number of zero bits, and its length in bits, so that it
fills whole blocks of sixteen words. -/
def pad (width : Nat) (message : Bytes) : Bytes :=
  let block := 16 * width
  let used := (message.length + 1 + 2 * width) % block
  message ++ 0x80 :: (List.replicate ((block - used) % block) 0 ++
    Bytes.bigEndian (2 * width) (8 * message.length))

/-- Bytes packed into words, most significant first. -/
@[specialize] def words [Branch α] (bs : Bytes) : Array α :=
  (bs.foldl
    (fun (out, word, filled) b =>
      let word := Branch.shiftIn word b
      if filled + 1 = Branch.width α then (out.push word, default, 0)
      else (out, word, filled + 1))
    ((#[] : Array α), (default : α), 0)).1

/-- The sixteen words of a block, continued to one word for each round. -/
@[specialize] def schedule [Branch α] (block : Array α) : Array α :=
  ((Branch.constants : List α).length - 16).fold
    (fun t _ w =>
      w.push (Branch.smallSigma1 (w.getD (t + 14) default) + w.getD (t + 9) default +
        Branch.smallSigma0 (w.getD (t + 1) default) + w.getD t default))
    block

/-- All rounds over one block, added to what stood before. -/
@[specialize] def compress [Branch α] (r : Registers α) (block : Array α) : Registers α :=
  let word := schedule block
  let last := (Branch.constants : List α).foldl
    (fun (s, t) constant => (Registers.round s constant (word.getD t default), t + 1)) (r, 0)
  r.add last.1

/-- The registers after all blocks of a message, begun at `start`. -/
@[specialize] def run [Branch α] (start : Registers α) (message : Bytes) : Registers α :=
  let all := (words (pad (Branch.width α) message) : Array α)
  (all.size / 16).fold (fun i _ r => compress r (all.extract (16 * i) (16 * i + 16))) start

/-- The fractional parts of the square roots of the first eight primes. -/
def start512 : Registers UInt64 :=
  ⟨0x6a09e667f3bcc908, 0xbb67ae8584caa73b, 0x3c6ef372fe94f82b, 0xa54ff53a5f1d36f1,
   0x510e527fade682d1, 0x9b05688c2b3e6c1f, 0x1f83d9abfb41bd6b, 0x5be0cd19137e2179⟩

/-- The fractional parts of the square roots of the ninth to sixteenth prime. -/
def start384 : Registers UInt64 :=
  ⟨0xcbbb9d5dc1059ed8, 0x629a292a367cd507, 0x9159015a3070dd17, 0x152fecd8f70e5939,
   0x67332667ffc00b31, 0x8eb44a8768581511, 0xdb0c2e0d64f98fa7, 0x47b5481dbefa4fa4⟩

/-- SHA-512. -/
def sha512 (message : Bytes) : Bytes := (run start512 message).toList.flatMap Branch.toBytes

/-- SHA-384: the first 48 bytes of a run with a start of its own. -/
def sha384 (message : Bytes) : Bytes :=
  ((run start384 message).toList.take 6).flatMap Branch.toBytes

/-- SHA-256: the narrow branch, started from the upper halves of the wide branch's start. -/
def sha256 (message : Bytes) : Bytes :=
  (run (start512.map fun (x : UInt64) => (x >>> 32).toUInt32) message).toList.flatMap Branch.toBytes

theorem length_sha512 (message : Bytes) : (sha512 message).length = 64 := by
  simp [sha512, Registers.toList, Branch.toBytes, bytes64]

end TokenBinding.Hash.Sha2
