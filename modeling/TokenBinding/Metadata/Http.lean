import TokenBinding.Metadata.Basic

/-!
# Metadata over HTTP

Documents and key sets are fetched with a plain request each. Unless that is turned off, an address
is refused before anything is sent if it does not begin with `https://`, letter for letter. Every
status from 200 to 299 is a success; the body must then be what was asked for.

The client that sends the requests follows redirections by itself (`follow`), up to ten of them, and
what it answers is the end of the chain. The policy is asked about the first address only: nobody
looks at the addresses that a chain goes on to. So a fetch tells, beside its result, which addresses
were requested on the way to it.

What lies behind the wire is a parameter (`Web`).
-/

namespace TokenBinding.Http

/-- An answer to a request. -/
structure Response where
  status : Nat
  body : Bytes
  /-- Where to go on to, as the answer puts it. -/
  location? : Option String := none
  deriving Repr, DecidableEq

/-- The web, as a client finds it. -/
structure Web where
  /-- What a request to an address, made under a user agent, comes to. An error says why there is no
  answer. -/
  answer : (url agent : String) → Except String Response
  /-- The address that a location is which was found at an address, if it is one. A location may be
  relative to where it was found. -/
  locate : (url location : String) → Option String

/-- The web where nobody answers. -/
def Web.unreachable : Web where
  answer url _ := .error ("error sending request for url (" ++ url ++ ")")
  locate _ location := some location

/-- The name under which requests are made. -/
def userAgent : String := "idbind/0.1.0"

/-- The statuses of an answer that sends a client on to another address. -/
def redirectStatuses : List Nat := [301, 302, 303, 307, 308]

/-- The address that an answer which was got at an address sends the client on to. -/
def Web.onward? (web : Web) (url : String) (r : Response) : Option String :=
  if r.status ∈ redirectStatuses then r.location?.bind (web.locate url) else none

/-- What came of a request. -/
structure Fetch (α ε : Type) where
  /-- The addresses that were requested, in order. -/
  requested : List String := []
  result : Except ε α

/-- Requests an address, and goes on to where the answers lead, at most so many times. -/
def follow (web : Web) (agent : String) (redirections : Nat) (url : String) :
    Fetch Response String :=
  match web.answer url agent with
  | .error reason => ⟨[url], .error reason⟩
  | .ok response =>
    match web.onward? url response, redirections with
    | none, _ => ⟨[url], .ok response⟩
    | some _, 0 => ⟨[url], .error ("error following redirect for url (" ++ url ++ ")")⟩
    | some next, n + 1 =>
      let rest := follow web agent n next
      { rest with requested := url :: rest.requested }

/-- How many redirections a client follows. -/
def maxRedirections : Nat := 10

/-- What every fetch is held to. -/
structure Policy where
  requireHttps : Bool := true
  deriving Repr, DecidableEq

namespace Policy

/-- What a secure address begins with. -/
def secureScheme : String := "https://"

/-- Whether an address may be fetched. -/
def permits (p : Policy) (url : String) : Bool :=
  !p.requireHttps || secureScheme.toList.isPrefixOf url.toList

end Policy

/-- Fetches what is at an address and reads it. -/
def get {α : Type} (web : Web) (policy : Policy) (parse? : Bytes → Option α) (url : String) :
    Fetch α MetadataError :=
  if !policy.permits url then { result := .error (.insecureUrl url) }
  else
    let fetch := follow web userAgent maxRedirections url
    { requested := fetch.requested
      result :=
        match fetch.result with
        | .error reason => .error (.network url reason)
        | .ok response =>
          if response.status < 200 ∨ 300 ≤ response.status then
            .error (.status url response.status)
          else
            match parse? response.body with
            | some a => .ok a
            | none => .error (.parse url "error decoding response body") }

/-- The discovery document at an address. -/
def getDocument (web : Web) (policy : Policy) (url : String) :
    Fetch ProviderMetadata MetadataError :=
  get web policy ProviderMetadata.parse? url

/-- The key set at an address. -/
def getKeys (web : Web) (policy : Policy) (url : String) : Fetch Token.KeySet MetadataError :=
  get web policy Token.KeySet.parse? url

/-- The resolver that asks the web. -/
def resolver (web : Web) (policy : Policy) : Resolver :=
  .ofAddress (fun url => (getDocument web policy url).result)
    (fun url => (getKeys web policy url).result)

end TokenBinding.Http
