import TokenBinding.Toml.Value

/-!
# Tables under construction

A table can be written in pieces: by a header, by longer headers that imply it, and by dotted keys.
The rules on what may be added to what are about where a table came from (`Origin`).

* A header opens a table once. A longer header may have implied it before; a dotted key may not have
  made it.
* A dotted key goes through tables that dotted keys made, and through implied ones, but the table
  into which it puts its value must be one that dotted keys made.
* Where a path meets an array of tables, it goes on in the last of them.
* A value, an inline table included, is never added to.

Keys stand in the order in which they came. An implied table that is opened moves to the place of
its header.
-/

namespace TokenBinding.Toml

/-- Where a table came from. -/
inductive Origin where
  /-- A header of its own. -/
  | header
  /-- A header of a table inside it. -/
  | implied
  /-- A dotted key. -/
  | dotted
  deriving Repr, DecidableEq

/-- What stands under a key. -/
inductive Node where
  | leaf (v : Value)
  | table (origin : Origin) (entries : List (String × Node))
  /-- The tables that headers in double brackets opened. -/
  | items (tables : List (List (String × Node)))
  deriving Repr, Inhabited

/-- A table under construction. -/
abbrev Entries := List (String × Node)

mutual
/-- The value of a node. -/
def Node.seal : Node → Value
  | .leaf v => v
  | .table _ entries => .table (sealEntries entries)
  | .items tables => .array (sealTables tables)
/-- The entries of a table that is done. -/
def sealEntries : List (String × Node) → List (String × Value)
  | [] => []
  | (key, node) :: rest => (key, node.seal) :: sealEntries rest
/-- The tables of an array that is done. -/
def sealTables : List (List (String × Node)) → List Value
  | [] => []
  | entries :: rest => .table (sealEntries entries) :: sealTables rest
end

namespace Entries

/-- Puts a node under a key: in place of the one that is there, or else at the end. -/
def put (es : Entries) (key : String) (node : Node) : Entries :=
  if (es.lookup key).isSome then es.map fun e => if e.1 = key then (key, node) else e
  else es ++ [(key, node)]

/-- Changes the last of some tables. -/
def alterLast (f : Entries → Option Entries) (tables : List Entries) : Option (List Entries) :=
  match tables.getLast? with
  | none => none
  | some last => (f last).map fun last => tables.dropLast ++ [last]

/-- Sets the value of a key, which may be dotted. -/
def set (v : Value) : (path : List String) → Entries → Option Entries
  | [], _ => none
  | [key], es => if (es.lookup key).isSome then none else some (es ++ [(key, .leaf v)])
  | key :: next :: rest, es =>
    let direct := rest.isEmpty
    let node? := match es.lookup key with
      | none => (set v (next :: rest) []).map (Node.table .dotted)
      | some (.table origin sub) =>
        if origin = Origin.header ∨ (direct ∧ origin ≠ Origin.dotted) then none
        else (set v (next :: rest) sub).map (Node.table origin)
      | some (.items tables) =>
        if direct then none else (alterLast (set v (next :: rest)) tables).map Node.items
      | some (.leaf _) => none
    node?.map (es.put key)

/-- Follows the path of a header up to its last key, implying the tables on its way. -/
def follow (finish : String → Entries → Option Entries) : (path : List String) → Entries →
    Option Entries
  | [], _ => none
  | [key], es => finish key es
  | key :: next :: rest, es =>
    let node? := match es.lookup key with
      | none => (follow finish (next :: rest) []).map (Node.table .implied)
      | some (.table origin sub) => (follow finish (next :: rest) sub).map (Node.table origin)
      | some (.items tables) => (alterLast (follow finish (next :: rest)) tables).map Node.items
      | some (.leaf _) => none
    node?.map (es.put key)

/-- Opens a table under a key. -/
def openTable (key : String) (es : Entries) : Option Entries :=
  match es.lookup key with
  | none => some (es ++ [(key, .table .header [])])
  | some (.table .implied sub) =>
    some (es.filter (fun e => e.1 ≠ key) ++ [(key, .table .header sub)])
  | some _ => none

/-- Opens one more table in the array of tables under a key. -/
def openItem (key : String) (es : Entries) : Option Entries :=
  match es.lookup key with
  | none => some (es.put key (.items [[]]))
  | some (.items tables) => some (es.put key (.items (tables ++ [[]])))
  | some _ => none

/-- Changes the table that the header with this path opened. -/
def inside (f : Entries → Option Entries) : (path : List String) → Entries → Option Entries
  | [], es => f es
  | key :: rest, es =>
    let node? := match es.lookup key with
      | some (.table origin sub) => (inside f rest sub).map (Node.table origin)
      | some (.items tables) => (alterLast (inside f rest) tables).map Node.items
      | _ => none
    node?.map (es.put key)

end Entries

end TokenBinding.Toml
