import TokenBinding.Toml.Statement

/-!
# TOML documents

A document is its outermost table. A byte order mark may stand in front of it.
-/

namespace TokenBinding.Toml.Document

/-- The document under construction: the outermost table, and the path of the last header. -/
structure Draft where
  root : Entries := []
  path : List String := []

/-- Adds one statement. -/
def Draft.add? (d : Draft) : Statement → Option Draft
  | .table path => (d.root.follow Entries.openTable path).map fun root => ⟨root, path⟩
  | .item path => (d.root.follow Entries.openItem path).map fun root => ⟨root, path⟩
  | .pair path v => (d.root.inside (Entries.set v path) d.path).map fun root => ⟨root, d.path⟩

/-- The outermost table of some statements. -/
def ofStatements? (statements : List Statement) : Option (List (String × Value)) :=
  (statements.foldlM Draft.add? {}).map fun d => sealEntries d.root

/-- The outermost table of a text. -/
def read? (s : String) : Option (List (String × Value)) :=
  let cs := match s.toList with
    | c :: rest => if c.toNat = 0xFEFF then rest else c :: rest
    | [] => []
  (Statement.takeAll? (cs.length + 1) cs).bind ofStatements?

end TokenBinding.Toml.Document
