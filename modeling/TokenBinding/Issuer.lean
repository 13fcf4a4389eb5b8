import TokenBinding.Json.Printer
import TokenBinding.Metadata.Basic
import TokenBinding.Provider
import TokenBinding.Token.Signature

/-!
# Issuers

An identity provider in a box: it has an issuer name, one shared key and its id, publishes its
discovery document and its key set, and signs claims.

Claims are signed as they stand in canonical JSON: without blanks, members sorted by name.
-/

namespace TokenBinding

/-- An issuer with its signing key. -/
structure Issuer where
  name : String
  keyId : String
  secret : Bytes
  deriving Repr, DecidableEq

namespace Issuer

open Json (Value)

/-- The address of the discovery document. -/
def discoveryUrl (i : Issuer) : String := i.name ++ discoverySuffix

/-- The address of the key set. -/
def jwksUri (i : Issuer) : String := i.name ++ "/keys"

/-- The discovery document. -/
def metadata (i : Issuer) : ProviderMetadata := ⟨i.name, i.jwksUri⟩

/-- The key set: the one key. -/
def keySet (i : Issuer) : Token.KeySet where
  keys := [{
    material := .octets (Text.Base64.encode .urlSafe i.secret)
    id? := some i.keyId
    algorithm? := some Token.Algorithm.hs256.name }]

/-- The header of every token. -/
def header (i : Issuer) : Value :=
  .object [("typ", .text "JWT"), ("alg", .text Token.Algorithm.hs256.name),
    ("kid", .text i.keyId)]

/-- A token over these claims. -/
def sign (i : Issuer) (claims : Value) : String :=
  Token.sign i.secret (Bytes.ofText i.header.compact) (Bytes.ofText claims.canonical.compact)

/-- The issuer as a provider that one can register. -/
def provider (i : Issuer) (displayId clientId : String) : Provider where
  displayId := displayId
  discoveryUrl := i.discoveryUrl
  clientId := clientId
  redirectUri := "idbind-test://callback"

end Issuer

end TokenBinding
