import TokenBinding.Token.Key

/-!
# Provider metadata

To verify a token, two things are fetched: the discovery document of its provider, and the key set
at the address that the document gives. How they are fetched is up to a `Resolver`, which answers
each request of a pass as it likes: two tokens that ask for the same address may be told different
things.
-/

namespace TokenBinding

/-- What is needed of a discovery document. -/
structure ProviderMetadata where
  issuer : String
  jwksUri : String
  deriving Repr, DecidableEq

/-- Why metadata was not fetched. -/
inductive MetadataError where
  | network (url reason : String)
  | status (url : String) (code : Nat)
  | parse (url reason : String)
  | insecureUrl (url : String)
  deriving Repr, DecidableEq

/-- The wording of a failed request. -/
def MetadataError.message : MetadataError → String
  | .network url reason => "Request to " ++ url ++ " failed: " ++ reason
  | .status url code => "Request to " ++ url ++ " returned status " ++ toString code
  | .parse url reason => "Response from " ++ url ++ " could not be parsed: " ++ reason
  | .insecureUrl url => "Refusing non-https metadata URL " ++ url

/-- The members of a discovery document, in the order in which an array lists their values. -/
def ProviderMetadata.layout : List String := ["issuer", "jwks_uri"]

/-- The discovery document that a JSON document is. -/
def ProviderMetadata.ofDocument? (d : Json.Document) : Option ProviderMetadata := do
  return { issuer := ← d.requiredText? "issuer", jwksUri := ← d.requiredText? "jwks_uri" }

/-- The discovery document that these bytes are the text of. -/
def ProviderMetadata.parse? (bs : Bytes) : Option ProviderMetadata :=
  (Json.Document.parseLaid? layout bs).bind ofDocument?

/-- A discovery document as a value. -/
def ProviderMetadata.toValue (m : ProviderMetadata) : Json.Value :=
  .object [("issuer", .text m.issuer), ("jwks_uri", .text m.jwksUri)]

/-- How the requests of a pass are answered. The first argument is the place in the bundle of the
token that asks. -/
structure Resolver where
  document : (token : Nat) → (url : String) → Except MetadataError ProviderMetadata
  keys : (token : Nat) → (url : String) → Except MetadataError Token.KeySet

namespace Resolver

/-- A resolver that answers by the address alone. -/
def ofAddress (document : String → Except MetadataError ProviderMetadata)
    (keys : String → Except MetadataError Token.KeySet) : Resolver where
  document _ := document
  keys _ := keys

end Resolver

end TokenBinding
