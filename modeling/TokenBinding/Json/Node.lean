import TokenBinding.Json.Token

/-!
# JSON values as they are written

The tree of a document that keeps the grammar. Its leaves have been looked at, but whether they can
be read is asked only of the parts that somebody wants (`Node.read`).

Of the parts of an array or object the first that cannot be read decides. If it is the last one, its
reader finds the closing bracket where it stopped, and so comes behind the whole. If anything
follows, or if a name is at fault, the reader stops inside.

What is read may be nested to a depth of 126; what is passed over, to any depth.
-/

namespace TokenBinding.Json

inductive Node where
  /-- A value of one word, a text literal, or a value that has been read already. -/
  | plain (r : Reading Value)
  | array (items : List Node)
  | object (entries : List (Reading String × Node))

namespace Node

/-! ## The grammar -/

mutual
/-- Takes one value off the front. -/
def take : (fuel : Nat) → List Token → Option (Node × List Token)
  | 0, _ => none
  | _ + 1, .text s :: rest => some (.plain (s.map .text), rest)
  | _ + 1, .scalar r :: rest => some (.plain r, rest)
  | _ + 1, .beginArray :: .endArray :: rest => some (.array [], rest)
  | fuel + 1, .beginArray :: rest =>
    (takeItems fuel rest).map fun p => (.array p.1, p.2)
  | _ + 1, .beginObject :: .endObject :: rest => some (.object [], rest)
  | fuel + 1, .beginObject :: rest =>
    (takeEntries fuel rest).map fun p => (.object p.1, p.2)
  | _ + 1, _ => none
/-- Takes the items of an array that has some, and its end. -/
def takeItems : (fuel : Nat) → List Token → Option (List Node × List Token)
  | 0, _ => none
  | fuel + 1, ts =>
    match take fuel ts with
    | some (n, .comma :: rest) => (takeItems fuel rest).map fun p => (n :: p.1, p.2)
    | some (n, .endArray :: rest) => some ([n], rest)
    | _ => none
/-- Takes the entries of an object that has some, and its end. -/
def takeEntries :
    (fuel : Nat) → List Token → Option (List (Reading String × Node) × List Token)
  | fuel + 1, .text name :: .colon :: ts =>
    match take fuel ts with
    | some (n, .comma :: rest) => (takeEntries fuel rest).map fun p => ((name, n) :: p.1, p.2)
    | some (n, .endObject :: rest) => some ([(name, n)], rest)
    | _ => none
  | _, _ => none
end

/-- The one value that a list of tokens is. Each step of the reader takes a token or ends at one, so
twice their number is fuel enough. -/
def ofTokens? (ts : List Token) : Option Node :=
  match take (2 * ts.length + 1) ts with
  | some (n, []) => some n
  | _ => none

/-- The value that these bytes are the text of. -/
def parse? (bs : Bytes) : Option Node := (Token.scan bs).bind ofTokens?

/-! ## Reading -/

mutual
/-- How deep arrays and objects are nested. -/
def depth : Node → Nat
  | plain _ => 0
  | array items => itemsDepth items + 1
  | object entries => entriesDepth entries + 1
/-- The depth of the deepest item. -/
def itemsDepth : List Node → Nat
  | [] => 0
  | n :: rest => max (depth n) (itemsDepth rest)
/-- The depth of the deepest value of an entry. -/
def entriesDepth : List (Reading String × Node) → Nat
  | [] => 0
  | (_, n) :: rest => max (depth n) (entriesDepth rest)
end

mutual
/-- Reads a value of whatever depth. -/
def value : Node → Reading Value
  | plain r => r
  | array items => (itemValues items).map .array
  | object entries => (entryValues entries).map .object
/-- Reads all items of an array. -/
def itemValues : List Node → Reading (List Value)
  | [] => .ok []
  | n :: rest =>
    match value n with
    | .ok v => (itemValues rest).map (v :: ·)
    | .error stop => .error (if rest.isEmpty then stop else .inside)
/-- Reads all entries of an object. -/
def entryValues : List (Reading String × Node) → Reading (List (String × Value))
  | [] => .ok []
  | (.error _, _) :: _ => .error .inside
  | (.ok name, n) :: rest =>
    match value n with
    | .ok v => (entryValues rest).map ((name, v) :: ·)
    | .error stop => .error (if rest.isEmpty then stop else .inside)
end

/-- How deep a value that is read may be nested. -/
def greatestDepth : Nat := 126

/-- Reads a value. -/
def read (n : Node) : Reading Value :=
  if n.depth ≤ greatestDepth then n.value else .error .inside

end Node

end TokenBinding.Json
