import TokenBinding.Json.Value
import TokenBinding.Json.Real

/-!
# JSON text

A value as text, in two layouts: `compact` without any blank, for the parts of a token, and `pretty`
with one member or item on a line, for the reader of a report.

A literal escapes the quotation mark, the backslash and the control characters below the space; all
else stands for itself.
-/

namespace TokenBinding.Json

/-- The lower-case hexadecimal digit of a number below 16. -/
def hexDigit (n : Nat) : Char :=
  if n < 10 then Char.ofNat (48 + n) else Char.ofNat (87 + n)

/-- A character as it stands in a literal. -/
def escapeChar (c : Char) : List Char :=
  if c = '"' then ['\\', '"']
  else if c = '\\' then ['\\', '\\']
  else if c.toNat = 8 then ['\\', 'b']
  else if c.toNat = 12 then ['\\', 'f']
  else if c.toNat = 10 then ['\\', 'n']
  else if c.toNat = 13 then ['\\', 'r']
  else if c.toNat = 9 then ['\\', 't']
  else if c.toNat < 32 then
    ['\\', 'u', '0', '0', hexDigit (c.toNat / 16), hexDigit (c.toNat % 16)]
  else [c]

/-- A text literal. -/
def literalChars (s : String) : List Char := '"' :: s.toList.flatMap escapeChar ++ ['"']

namespace Value

mutual
/-- The characters of a value without blanks. -/
def compactChars : Value → List Char
  | null => "null".toList
  | bool true => "true".toList
  | bool false => "false".toList
  | integer n => (toString n).toList
  | real x => x.chars
  | text s => literalChars s
  | array items => '[' :: compactItems items
  | object members => '\x7b' :: compactMembers members
/-- The items of an array and its end. -/
def compactItems : List Value → List Char
  | [] => [']']
  | [v] => compactChars v ++ [']']
  | v :: w :: rest => compactChars v ++ ',' :: compactItems (w :: rest)
/-- The members of an object and its end. -/
def compactMembers : List (String × Value) → List Char
  | [] => ['\x7d']
  | [(name, v)] => literalChars name ++ ':' :: compactChars v ++ ['\x7d']
  | (name, v) :: m :: rest =>
    literalChars name ++ ':' :: compactChars v ++ ',' :: compactMembers (m :: rest)
end

/-- A value as one line without blanks. -/
def compact (v : Value) : String := String.ofList (compactChars v)

/-- A new line, indented by two blanks for each level. -/
def newline (level : Nat) : String := "\n" ++ String.ofList (List.replicate (2 * level) ' ')

mutual
/-- A value whose first line stands behind something, and whose last is indented to `level`. -/
def prettyAt (level : Nat) : Value → String
  | array [] => "[]"
  | array (v :: rest) => "[" ++ prettyItems level (v :: rest) ++ newline level ++ "]"
  | object [] => "\x7b\x7d"
  | object (m :: rest) => "\x7b" ++ prettyMembers level (m :: rest) ++ newline level ++ "\x7d"
  | v => compact v
/-- The items of an array, each on a line of its own. -/
def prettyItems (level : Nat) : List Value → String
  | [] => ""
  | [v] => newline (level + 1) ++ prettyAt (level + 1) v
  | v :: w :: rest =>
    newline (level + 1) ++ prettyAt (level + 1) v ++ "," ++ prettyItems level (w :: rest)
/-- The members of an object, each on a line of its own. -/
def prettyMembers (level : Nat) : List (String × Value) → String
  | [] => ""
  | [(name, v)] =>
    newline (level + 1) ++ String.ofList (literalChars name) ++ ": " ++ prettyAt (level + 1) v
  | (name, v) :: m :: rest =>
    newline (level + 1) ++ String.ofList (literalChars name) ++ ": " ++ prettyAt (level + 1) v ++
      "," ++ prettyMembers level (m :: rest)
end

/-- A value over several lines, indented by two blanks a level. Empty arrays and objects stay on
one line. -/
def pretty (v : Value) : String := prettyAt 0 v

end Value

end TokenBinding.Json
