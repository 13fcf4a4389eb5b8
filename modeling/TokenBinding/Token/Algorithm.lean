/-!
# Signature algorithms

The algorithms that a token header may name, and the families of keys that they belong to. A key
verifies tokens of its own family only.
-/

namespace TokenBinding.Token

/-- A kind of key. -/
inductive Family where
  /-- A shared secret. -/
  | hmac
  | rsa
  | ellipticCurve
  | edwards
  deriving Repr, DecidableEq

inductive Algorithm where
  | hs256 | hs384 | hs512
  | es256 | es384
  | rs256 | rs384 | rs512
  | ps256 | ps384 | ps512
  | edDSA
  deriving Repr, DecidableEq

namespace Algorithm

/-- The kind of key that an algorithm needs. -/
def family : Algorithm → Family
  | hs256 | hs384 | hs512 => .hmac
  | es256 | es384 => .ellipticCurve
  | rs256 | rs384 | rs512 | ps256 | ps384 | ps512 => .rsa
  | edDSA => .edwards

/-- The name in a header. -/
def name : Algorithm → String
  | hs256 => "HS256"
  | hs384 => "HS384"
  | hs512 => "HS512"
  | es256 => "ES256"
  | es384 => "ES384"
  | rs256 => "RS256"
  | rs384 => "RS384"
  | rs512 => "RS512"
  | ps256 => "PS256"
  | ps384 => "PS384"
  | ps512 => "PS512"
  | edDSA => "EdDSA"

/-- All algorithms. -/
def all : List Algorithm :=
  [hs256, hs384, hs512, es256, es384, rs256, rs384, rs512, ps256, ps384, ps512, edDSA]

/-- The algorithm with exactly this name. -/
def ofName? (s : String) : Option Algorithm := all.find? fun a => a.name == s

/-- No algorithm is missing from the list, so each is found by its name. -/
theorem mem_all (a : Algorithm) : a ∈ all := by cases a <;> decide

end Algorithm

end TokenBinding.Token
