import TokenBinding.Json.Node

/-!
# JSON documents

Token headers, token payloads, discovery documents and key sets are JSON objects of which a few
members are read and all others ignored. A document is the list of the members of its object. The
names of the members must be texts; the values are kept as they are written.

What is ignored has to keep the grammar and no more. So a member whose value cannot be read is
there; reading it is refused, passing over it is not.

Reading a member that stands twice is refused, whatever the two values are. An absent member and one
with the value `null` are the same.

A document all of whose members are known may also be written as the array of their values, in the
order of its layout and without a gap (`Document.parseLaid?`).
-/

namespace TokenBinding.Json

/-- The members of an object, in order. -/
structure Document where
  members : List (String × Node)

namespace Document

/-- The entries of an object, of which no name may be at fault. -/
def nameEntries? : List (Reading String × Node) → Option (List (String × Node))
  | [] => some []
  | (.ok name, n) :: rest => (nameEntries? rest).map ((name, n) :: ·)
  | (.error _, _) :: _ => none

/-- The document that an object is. -/
def ofNode? : Node → Option Document
  | .object entries => (nameEntries? entries).map Document.mk
  | _ => none

/-- The document that an object is, or an array of values with these names. -/
def ofLaid? (layout : List String) : Node → Option Document
  | .array items => if items.length = layout.length then some ⟨layout.zip items⟩ else none
  | n => ofNode? n

/-- The document that these bytes are the text of. -/
def parse? (bs : Bytes) : Option Document := (Node.parse? bs).bind ofNode?

/-- The document of a known layout that these bytes are the text of. -/
def parseLaid? (layout : List String) (bs : Bytes) : Option Document :=
  (Node.parse? bs).bind (ofLaid? layout)

/-- An object that was read as a value, read again as a document. -/
def ofMembers (members : List (String × Value)) : Document :=
  ⟨members.map fun m => (m.1, .plain (.ok m.2))⟩

/-- A document read whole, as a value. -/
def read (d : Document) : Reading Value :=
  if d.members.all (fun m => m.2.depth ≤ Node.greatestDepth) then
    (Node.entryValues (d.members.map fun m => (.ok m.1, m.2))).map .object
  else .error .inside

/-- The values of all members of this name. -/
def occurrences (d : Document) (name : String) : List Node :=
  (d.members.filter fun m => m.1 = name).map (·.2)

/-- The value of a member as it is written: `none` if it stands twice, `some none` if it does not
stand there. -/
def node? (d : Document) (name : String) : Option (Option Node) :=
  match d.occurrences name with
  | [] => some none
  | [n] => some (some n)
  | _ => none

/-- The value of a member: `none` if it may not be read, `some none` if there is none. -/
def member? (d : Document) (name : String) : Option (Option Value) :=
  match d.node? name with
  | none => none
  | some none => some none
  | some (some n) =>
    match n.read with
    | .ok .null => some none
    | .ok v => some (some v)
    | .error _ => none

/-- A member that is a text, or absent. -/
def textMember? (d : Document) (name : String) : Option (Option String) :=
  match d.member? name with
  | some none => some none
  | some (some (.text s)) => some (some s)
  | _ => none

/-- A member that has to be a text. -/
def requiredText? (d : Document) (name : String) : Option String := (d.textMember? name).join

/-- A member that is a word of a fixed list, or absent. A word may be written as a text, or as an
object of one member, named by the word and with nothing as its value; `isNothing` says which values
are nothing. -/
def wordMember? (isNothing : Value → Bool) (d : Document) (name : String) :
    Option (Option String) :=
  match d.member? name with
  | some none => some none
  | some (some (.text s)) => some (some s)
  | some (some (.object [(s, v)])) => if isNothing v then some (some s) else none
  | _ => none

/-- A member that is a whole number from 0 to 2⁶⁴ - 1, or absent. -/
def countMember? (d : Document) (name : String) : Option (Option UInt64) :=
  match d.member? name with
  | some none => some none
  | some (some (.integer (.ofNat n))) =>
    if n < UInt64.size then some (some (UInt64.ofNat n)) else none
  | _ => none

/-- The texts of a list of values that holds nothing else. -/
def textItems? : List Value → Option (List String)
  | [] => some []
  | .text s :: rest => (textItems? rest).map (s :: ·)
  | _ :: _ => none

/-- A member that is an array of texts, or absent. -/
def textsMember? (d : Document) (name : String) : Option (Option (List String)) :=
  match d.member? name with
  | some none => some none
  | some (some (.array items)) => (textItems? items).map some
  | _ => none

end Document

end TokenBinding.Json
