import TokenBinding.Toml.Literal
import TokenBinding.Toml.Scalar
import TokenBinding.Toml.Table

/-!
# TOML statements

A file is a list of statements, each on a line of its own: headers, and pairs of a key and a value.
Only arrays and literals go over several lines.

Values are nested less than 80 deep, and dotted keys have fewer than 80 parts. Each step of a reader
takes a character or ends, so the length of the text is fuel enough.
-/

namespace TokenBinding.Toml

inductive Statement where
  /-- A header in single brackets. -/
  | table (path : List String)
  /-- A header in double brackets. -/
  | item (path : List String)
  | pair (path : List String) (value : Value)
  deriving Repr

namespace Statement

/-- How deep values are nested at most, and of how many parts a key is. -/
def depthLimit : Nat := 79

/-! ## Between the parts -/

/-- The text without the blanks in front. -/
def skipBlanks (cs : List Char) : List Char := cs.dropWhile isBlank

/-- Passes over blanks, line ends and comments, which may stand between the items of an array. -/
def skipFiller (inComment : Bool) : List Char → List Char
  | [] => []
  | '\r' :: '\n' :: rest => skipFiller false rest
  | c :: rest =>
    if c = '\n' then skipFiller false rest
    else if inComment then if isTextChar c then skipFiller true rest else c :: rest
    else if isBlank c then skipFiller false rest
    else if c = '#' then skipFiller true rest
    else c :: rest

/-- Passes over blanks, a comment, and the end of the line or of the text. -/
def takeLineEnd? (cs : List Char) : Option (List Char) :=
  let behind := match skipBlanks cs with
    | '#' :: rest => rest.dropWhile isTextChar
    | rest => rest
  match behind with
  | [] => some []
  | '\n' :: rest => some rest
  | '\r' :: '\n' :: rest => some rest
  | _ => none

/-! ## Keys -/

/-- The characters of keys without quotation marks. -/
def isKeyChar (c : Char) : Bool := c.isAlphanum || c == '_' || c == '-'

/-- Reads one part of a key. -/
def takeKeyPart? (cs : List Char) : Option (String × List Char) :=
  match Literal.takeLine? cs with
  | some taken => taken.map fun p => (String.ofList p.1, p.2)
  | none =>
    match cs.takeWhile isKeyChar with
    | [] => none
    | part => some (String.ofList part, cs.dropWhile isKeyChar)

/-- Reads a key of at most `parts` parts, with the blanks around them. -/
def takeKey? : (parts : Nat) → List Char → Option (List String × List Char)
  | 0, _ => none
  | parts + 1, cs => do
    let (part, rest) ← takeKeyPart? (skipBlanks cs)
    match skipBlanks rest with
    | '.' :: rest => do
      let (path, rest) ← takeKey? parts rest
      return (part :: path, rest)
    | rest => return ([part], rest)

/-! ## Values -/

/-- The inline table that has these pairs. -/
def inlineTable? (pairs : List (List String × Value)) : Option Value :=
  (pairs.foldlM (fun es (p : List String × Value) => Entries.set p.2 p.1 es) []).map
    fun es => .table (sealEntries es)

mutual
/-- Reads a value that may be nested so deep. -/
def takeValue? : (fuel depth : Nat) → List Char → Option (Value × List Char)
  | 0, _, _ => none
  | fuel + 1, depth, cs =>
    match Literal.take? cs with
    | some taken => taken.map fun p => (.text (String.ofList p.1), p.2)
    | none =>
      match cs, depth with
      | '[' :: rest, depth + 1 =>
        (takeItems? fuel depth (skipFiller false rest)).map fun p => (.array p.1, p.2)
      | '\x7b' :: rest, depth + 1 =>
        match skipBlanks rest with
        | '\x7d' :: rest => some (.table [], rest)
        | rest => do
          let (pairs, rest) ← takePairs? fuel depth rest
          return (← inlineTable? pairs, rest)
      | cs, _ => Scalar.take? cs
/-- Reads the items of an array, and its end. A comma may stand behind the last item. -/
def takeItems? : (fuel depth : Nat) → List Char → Option (List Value × List Char)
  | 0, _, _ => none
  | fuel + 1, depth, cs =>
    match cs with
    | ']' :: rest => some ([], rest)
    | cs => do
      let (v, rest) ← takeValue? fuel depth cs
      match skipFiller false rest with
      | ',' :: rest => do
        let (items, rest) ← takeItems? fuel depth (skipFiller false rest)
        return (v :: items, rest)
      | ']' :: rest => return ([v], rest)
      | _ => none
/-- Reads the pairs of an inline table that has some, and its end. -/
def takePairs? : (fuel depth : Nat) → List Char → Option (List (List String × Value) × List Char)
  | 0, _, _ => none
  | fuel + 1, depth, cs => do
    let (path, rest) ← takeKey? depthLimit cs
    match rest with
    | '=' :: rest => do
      let (v, rest) ← takeValue? fuel depth (skipBlanks rest)
      match skipBlanks rest with
      | ',' :: rest => do
        let (pairs, rest) ← takePairs? fuel depth rest
        return ((path, v) :: pairs, rest)
      | '\x7d' :: rest => return ([(path, v)], rest)
      | _ => none
    | _ => none
end

/-! ## Statements -/

/-- Reads a statement up to its last character. -/
def take? (cs : List Char) : Option (Statement × List Char) :=
  match cs with
  | '[' :: '[' :: rest => do
    let (path, rest) ← takeKey? depthLimit rest
    match rest with
    | ']' :: ']' :: rest => return (.item path, rest)
    | _ => none
  | '[' :: rest => do
    let (path, rest) ← takeKey? depthLimit rest
    match rest with
    | ']' :: rest => return (.table path, rest)
    | _ => none
  | cs => do
    let (path, rest) ← takeKey? depthLimit cs
    match rest with
    | '=' :: rest => do
      let (v, rest) ← takeValue? (2 * cs.length) depthLimit (skipBlanks rest)
      return (.pair path v, rest)
    | _ => none

/-- Reads the statements of a text, each with the rest of its line. -/
def takeAll? : (fuel : Nat) → List Char → Option (List Statement)
  | 0, _ => none
  | fuel + 1, cs =>
    match skipBlanks cs with
    | [] => some []
    | c :: rest =>
      match takeLineEnd? (c :: rest) with
      | some rest => takeAll? fuel rest
      | none => do
        let (statement, rest) ← take? (c :: rest)
        let rest ← takeLineEnd? rest
        return statement :: (← takeAll? fuel rest)

end Statement

end TokenBinding.Toml
