/-!
# Identity providers

A provider is registered with the address of its discovery document. The rule that ties the two
ways of naming it: the address is the issuer followed by a fixed suffix, exactly. A provider whose
address lacks the suffix is the provider of no issuer.

A registry is a short table in which the first match counts.
-/

namespace TokenBinding

/-- What follows the issuer in the address of a discovery document. -/
def discoverySuffix : String := "/.well-known/openid-configuration"

/-- An identity provider that tokens may come from. -/
structure Provider where
  displayId : String
  discoveryUrl : String
  clientId : String
  redirectUri : String
  deriving Repr, DecidableEq

namespace Provider

/-- Whether this is the provider of an issuer. -/
def matchesIssuer (p : Provider) (issuer : String) : Bool :=
  p.discoveryUrl == issuer ++ discoverySuffix

/-- The issuer that this is the provider of, if its address has the suffix. -/
def issuer? (p : Provider) : Option String :=
  let url := p.discoveryUrl.toList
  let suffix := discoverySuffix.toList
  if suffix.isSuffixOf url then some (String.ofList (url.take (url.length - suffix.length)))
  else none

end Provider

/-- The providers in use, in order. -/
structure Registry where
  providers : List Provider
  deriving Repr, DecidableEq

namespace Registry

/-- The table that is used where none is configured. -/
def builtin : Registry where
  providers := [{
    displayId := "Microsoft"
    discoveryUrl :=
      "https://login.microsoftonline.com/9188040d-6c67-4c5b-b112-36a304b66dad/v2.0/.well-known/openid-configuration"
    clientId := "ec8813c8-670b-4b23-a85b-d44c8b7e8521"
    redirectUri := "msauth://org.thoughtcrime.securesms/mzt6kLeOL6MrO29SHvHxFO725UY%3D" }]

/-- The first provider with this display id. -/
def byDisplayId? (r : Registry) (id : String) : Option Provider :=
  r.providers.find? fun p => p.displayId == id

/-- The first provider of this issuer. -/
def byIssuer? (r : Registry) (issuer : String) : Option Provider :=
  r.providers.find? fun p => p.matchesIssuer issuer

/-- The providers of a selection, in its order. Unknown ids are passed over. -/
def select (r : Registry) (ids : List String) : List Provider := ids.filterMap r.byDisplayId?

/-- The ids of a selection that `select` passes over. -/
def unknownIds (r : Registry) (ids : List String) : List String :=
  ids.filter fun id => (r.byDisplayId? id).isNone

end Registry

end TokenBinding
