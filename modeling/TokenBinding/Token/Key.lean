import TokenBinding.Json.Document
import TokenBinding.Text.Base64
import TokenBinding.Token.Algorithm

/-!
# JSON web keys

A key as a provider publishes it. Its type decides which members hold the key itself; the others are
annotations, all optional. A key is read whole before its members are looked at. Members that are
not known are then dropped, and one bad key spoils a set.

A key set may be written as an array with the list of its keys as the one value.

The values of a key are base64, but that is seen only when the key is made ready to verify with
(`Key.verifying`), one value after the other. What a key says of its own use and algorithm has no
effect on verification.
-/

namespace TokenBinding.Token

/-- The curves that a key may lie on. -/
inductive Curve where
  | p256 | p384 | p521 | ed25519
  deriving Repr, DecidableEq

namespace Curve

/-- The name in a key. -/
def name : Curve → String
  | p256 => "P-256"
  | p384 => "P-384"
  | p521 => "P-521"
  | ed25519 => "Ed25519"

/-- The curve with exactly this name. -/
def ofName? (s : String) : Option Curve :=
  [p256, p384, p521, ed25519].find? fun c => c.name == s

end Curve

/-- The type of a key with the values that make it up, in base64. -/
inductive KeyMaterial where
  | octets (k : String)
  | rsa (n e : String)
  | ellipticCurve (curve : Curve) (x y : String)
  | octetPair (curve : Curve) (x : String)
  deriving Repr, DecidableEq

/-- A published key. -/
structure Key where
  material : KeyMaterial
  id? : Option String := none
  use? : Option String := none
  operations? : Option (List String) := none
  algorithm? : Option String := none
  url? : Option String := none
  chain? : Option (List String) := none
  thumbprint? : Option String := none
  thumbprintSha256? : Option String := none
  deriving Repr, DecidableEq

/-- A published list of keys. -/
structure KeySet where
  keys : List Key
  deriving Repr, DecidableEq

namespace Key

open Json (Document Value)

/-- The algorithms that a key may be meant for: those of tokens, and three for encryption. -/
def algorithmNames : List String :=
  Algorithm.all.map Algorithm.name ++ ["RSA1_5", "RSA-OAEP", "RSA-OAEP-256"]

/-- The curve that a member names. -/
def readCurve? (d : Document) : Option Curve :=
  (d.wordMember? Value.isNull "crv").join.bind Curve.ofName?

/-- The type of a key and its values, every one of them required. -/
def readMaterial? (d : Document) : Option KeyMaterial := do
  let type ← (d.wordMember? Value.isNull "kty").join
  if type = "oct" then return .octets (← d.requiredText? "k")
  else if type = "RSA" then return .rsa (← d.requiredText? "n") (← d.requiredText? "e")
  else if type = "EC" then
    return .ellipticCurve (← readCurve? d) (← d.requiredText? "x") (← d.requiredText? "y")
  else if type = "OKP" then return .octetPair (← readCurve? d) (← d.requiredText? "x")
  else none

/-- The algorithm that a key says it is meant for. -/
def readAlgorithm? (d : Document) : Option (Option String) := do
  match ← d.wordMember? Value.isVoid "alg" with
  | none => return none
  | some name => if name ∈ algorithmNames then return some name else none

/-- The key that an object describes. -/
def ofDocument? (d : Document) : Option Key := do
  return {
    material := ← readMaterial? d
    id? := ← d.textMember? "kid"
    use? := ← d.textMember? "use"
    operations? := ← d.textsMember? "key_ops"
    algorithm? := ← readAlgorithm? d
    url? := ← d.textMember? "x5u"
    chain? := ← d.textsMember? "x5c"
    thumbprint? := ← d.textMember? "x5t"
    thumbprintSha256? := ← d.textMember? "x5t#S256" }

/-- The key that a value describes. -/
def ofValue? : Value → Option Key
  | .object members => ofDocument? (.ofMembers members)
  | _ => none

/-- The members that hold the key itself. -/
def materialMembers : KeyMaterial → List (String × Value)
  | .octets k => [("kty", .text "oct"), ("k", .text k)]
  | .rsa n e => [("kty", .text "RSA"), ("n", .text n), ("e", .text e)]
  | .ellipticCurve c x y =>
    [("kty", .text "EC"), ("crv", .text c.name), ("x", .text x), ("y", .text y)]
  | .octetPair c x => [("kty", .text "OKP"), ("crv", .text c.name), ("x", .text x)]

/-- A member that is there if its value is. -/
def optionalMember (name : String) (v : Option Value) : List (String × Value) :=
  match v with
  | some v => [(name, v)]
  | none => []

/-- The key as an object of the members that it has. -/
def toValue (k : Key) : Value :=
  let texts := fun (ss : List String) => Value.array (ss.map .text)
  .object (optionalMember "use" (k.use?.map .text) ++
    optionalMember "key_ops" (k.operations?.map texts) ++
    optionalMember "alg" (k.algorithm?.map .text) ++
    optionalMember "kid" (k.id?.map .text) ++
    optionalMember "x5u" (k.url?.map .text) ++
    optionalMember "x5c" (k.chain?.map texts) ++
    optionalMember "x5t" (k.thumbprint?.map .text) ++
    optionalMember "x5t#S256" (k.thumbprintSha256?.map .text) ++
    materialMembers k.material)

end Key

namespace KeySet

open Json (Document Value)

/-- The keys that a list of values describes. -/
def readKeys? : List Value → Option (List Key)
  | [] => some []
  | v :: rest =>
    match Key.ofValue? v with
    | some k => (readKeys? rest).map (k :: ·)
    | none => none

/-- The members of a key set, in the order in which an array lists their values. -/
def layout : List String := ["keys"]

/-- The key set that a document is. -/
def ofDocument? (d : Document) : Option KeySet :=
  match d.member? "keys" with
  | some (some (.array items)) => (readKeys? items).map KeySet.mk
  | _ => none

/-- The key set that a value is. -/
def ofValue? : Value → Option KeySet
  | .object members => ofDocument? (.ofMembers members)
  | .array [keys] => ofDocument? (.ofMembers [("keys", keys)])
  | _ => none

/-- The key set that these bytes are the text of. -/
def parse? (bs : Bytes) : Option KeySet := (Document.parseLaid? layout bs).bind ofDocument?

/-- The key set as a value. -/
def toValue (s : KeySet) : Value := .object [("keys", .array (s.keys.map Key.toValue))]

/-- The key that a token is to be verified with: the first of the id that the token names; for a
token that names none, the only key of the set. -/
def select (s : KeySet) : (id? : Option String) → Option Key
  | some id => s.keys.find? fun k => k.id? == some id
  | none =>
    match s.keys with
    | [k] => some k
    | _ => none

end KeySet

/-- A key made ready to verify with. -/
inductive VerifyingKey where
  | secret (bytes : Bytes)
  | rsa (n e : Bytes)
  | ellipticCurve (x y : Bytes)
  | edwards (x : Bytes)
  deriving Repr, DecidableEq

/-- The kind of a key. -/
def VerifyingKey.family : VerifyingKey → Family
  | secret _ => .hmac
  | rsa _ _ => .rsa
  | ellipticCurve _ _ => .ellipticCurve
  | edwards _ => .edwards

/-- The kind of the key that this material makes. -/
def KeyMaterial.family : KeyMaterial → Family
  | octets _ => .hmac
  | rsa _ _ => .rsa
  | ellipticCurve _ _ _ => .ellipticCurve
  | octetPair _ _ => .edwards

/-- Decodes the values of a key, in the order in which its type lists them. -/
def KeyMaterial.verifying : KeyMaterial → Except Text.Base64.Error VerifyingKey
  | octets k => do return .secret (← Text.Base64.decode .urlSafe k)
  | rsa n e => do return .rsa (← Text.Base64.decode .urlSafe n) (← Text.Base64.decode .urlSafe e)
  | ellipticCurve _ x y => do
    return .ellipticCurve (← Text.Base64.decode .urlSafe x) (← Text.Base64.decode .urlSafe y)
  | octetPair _ x => do return .edwards (← Text.Base64.decode .urlSafe x)

end TokenBinding.Token
