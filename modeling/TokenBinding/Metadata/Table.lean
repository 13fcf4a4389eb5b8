import TokenBinding.Issuer

/-!
# Metadata from a table

A table of documents and key sets by address, with addresses that are set to fail. It answers every
request for an address in the same way, writes the address down, and says of an address that it does
not know what a web server would say.
-/

namespace TokenBinding

structure MetadataTable where
  documents : List (String × ProviderMetadata) := []
  keySets : List (String × Token.KeySet) := []
  failing : List (String × MetadataError) := []
  /-- The addresses asked for so far. -/
  requests : List String := []
  deriving Repr, DecidableEq

namespace MetadataTable

/-- Serves a document at an address. -/
def insertDocument (t : MetadataTable) (url : String) (m : ProviderMetadata) : MetadataTable :=
  { t with documents := (url, m) :: t.documents }

/-- Serves a key set at an address. -/
def insertKeys (t : MetadataTable) (url : String) (keys : Token.KeySet) : MetadataTable :=
  { t with keySets := (url, keys) :: t.keySets }

/-- Lets every request to an address fail, whatever is served there. -/
def insertFailure (t : MetadataTable) (url : String) (e : MetadataError) : MetadataTable :=
  { t with failing := (url, e) :: t.failing }

/-- Serves the document and the key set of an issuer. -/
def insertIssuer (t : MetadataTable) (i : Issuer) : MetadataTable :=
  (t.insertDocument i.discoveryUrl i.metadata).insertKeys i.jwksUri i.keySet

/-- What is served at an address. The latest entry counts. -/
def answer {α : Type} (t : MetadataTable) (served : List (String × α)) (url : String) :
    Except MetadataError α :=
  match t.failing.lookup url with
  | some e => .error e
  | none =>
    match served.lookup url with
    | some a => .ok a
    | none => .error (.status url 404)

/-- The table as a resolver. -/
def resolver (t : MetadataTable) : Resolver :=
  .ofAddress (t.answer t.documents) (t.answer t.keySets)

/-- The table after some more requests. -/
def record (t : MetadataTable) (urls : List String) : MetadataTable :=
  { t with requests := t.requests ++ urls }

end MetadataTable

end TokenBinding
