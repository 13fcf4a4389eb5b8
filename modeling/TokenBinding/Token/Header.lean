import TokenBinding.Token.Key

/-!
# Token headers

Of a header only the algorithm and the key id are used. The other known members are checked for
their types and then left alone: neither a key in the header nor an address in it is ever trusted.

A header may be written as an array of the values of all its members.
-/

namespace TokenBinding.Token

/-- What is used of a header. -/
structure Header where
  algorithm : Algorithm
  keyId? : Option String := none
  deriving Repr, DecidableEq

namespace Header

open Json (Document Value)

/-- The members of a header, in the order in which an array lists their values. -/
def layout : List String :=
  ["typ", "alg", "cty", "jku", "jwk", "kid", "x5u", "x5c", "x5t", "x5t#S256"]

/-- The members that are texts where they are present. -/
def textMembers : List String := ["typ", "cty", "jku", "kid", "x5u", "x5t", "x5t#S256"]

/-- Whether an embedded key, if there is one, is a key. -/
def embeddedKeyOk (d : Document) : Bool :=
  match d.member? "jwk" with
  | none => false
  | some none => true
  | some (some v) => (Key.ofValue? v).isSome

/-- Whether every known member has its type. -/
def wellTyped (d : Document) : Bool :=
  textMembers.all (fun name => (d.textMember? name).isSome) && (d.textsMember? "x5c").isSome &&
    embeddedKeyOk d

/-- The algorithm that a header names. -/
def readAlgorithm? (d : Document) : Option Algorithm :=
  (d.wordMember? Value.isNull "alg").join.bind Algorithm.ofName?

/-- The header that a document is. -/
def ofDocument? (d : Document) : Option Header :=
  if wellTyped d then do
    return {
      algorithm := ← readAlgorithm? d
      keyId? := ← d.textMember? "kid" }
  else none

/-- The header that these bytes are the text of. -/
def parse? (bs : Bytes) : Option Header := (Document.parseLaid? layout bs).bind ofDocument?

end Header

end TokenBinding.Token
