import TokenBinding.Toml.Value

/-!
# TOML text literals

Four kinds of literal: between double quotation marks with escapes, between single ones without, and
each of them tripled to go over several lines. A line end in a literal is one line feed, however the
file spells it, and the one behind an opening mark does not count. A literal over several lines may
end in up to two of its own marks.
-/

namespace TokenBinding.Toml

/-- The value of a hexadecimal digit of either case. -/
def hexValue? (c : Char) : Option Nat :=
  if '0' ≤ c ∧ c ≤ '9' then some (c.toNat - 48)
  else if 'a' ≤ c ∧ c ≤ 'f' then some (c.toNat - 87)
  else if 'A' ≤ c ∧ c ≤ 'F' then some (c.toNat - 55)
  else none

/-- The character whose number these digits spell. Surrogates are none. -/
def numbered? (digits : List Char) : Option Char := do
  let n := (← digits.mapM hexValue?).foldl (fun n d => 16 * n + d) 0
  if n.isValidChar then some (Char.ofNat n) else none

/-- The character behind a short escape. -/
def shortEscape? (c : Char) : Option Char :=
  match c with
  | 'b' => some (Char.ofNat 8)
  | 't' => some '\t'
  | 'n' => some '\n'
  | 'f' => some (Char.ofNat 12)
  | 'r' => some '\r'
  | '"' => some '"'
  | '\\' => some '\\'
  | _ => none

namespace Literal

/-- The contents of a literal, and the text behind it. -/
abbrev Taken := Option (List Char × List Char)

/-- Puts a character in front of the contents. -/
def keep (c : Char) (t : Taken) : Taken := t.map fun p => (c :: p.1, p.2)

/-- Puts a character in front of the contents, if there is one. -/
def keep? (c? : Option Char) (t : Taken) : Taken := c?.bind fun c => keep c t

/-- Reads to the closing double mark. -/
def takeBasic : List Char → Taken
  | [] => none
  | c :: rest =>
    if c = '"' then some ([], rest)
    else if c = '\\' then
      match rest with
      | 'u' :: d₁ :: d₂ :: d₃ :: d₄ :: rest => keep? (numbered? [d₁, d₂, d₃, d₄]) (takeBasic rest)
      | 'U' :: d₁ :: d₂ :: d₃ :: d₄ :: d₅ :: d₆ :: d₇ :: d₈ :: rest =>
        keep? (numbered? [d₁, d₂, d₃, d₄, d₅, d₆, d₇, d₈]) (takeBasic rest)
      | e :: rest => keep? (shortEscape? e) (takeBasic rest)
      | [] => none
    else if isTextChar c then keep c (takeBasic rest)
    else none

/-- Reads to the closing single mark. -/
def takeRaw : List Char → Taken
  | [] => none
  | c :: rest =>
    if c = '\'' then some ([], rest)
    else if isTextChar c then keep c (takeRaw rest)
    else none

/-- What follows three closing marks: up to two more of them are contents. -/
def closeLines (mark : Char) : List Char → List Char × List Char
  | a :: b :: rest =>
    if a = mark then if b = mark then ([a, b], rest) else ([a], b :: rest) else ([], a :: b :: rest)
  | [a] => if a = mark then ([a], []) else ([], [a])
  | [] => ([], [])

/-- Whether nothing but blanks stands before the end of the line. -/
def endsLine (cs : List Char) : Bool :=
  match cs.dropWhile isBlank with
  | '\n' :: _ => true
  | '\r' :: '\n' :: _ => true
  | _ => false

/-- Reads a literal over several lines to its three closing double marks. Behind a backslash at the
end of a line, `skipping` passes over blanks and line ends. -/
def takeBasicLines (skipping : Bool) : List Char → Taken
  | [] => none
  | '\r' :: '\n' :: rest =>
    if skipping then takeBasicLines true rest else keep '\n' (takeBasicLines false rest)
  | '"' :: '"' :: '"' :: rest => some (closeLines '"' rest)
  | c :: rest =>
    if skipping && (isBlank c || c == '\n') then takeBasicLines true rest
    else if c = '\n' then keep '\n' (takeBasicLines false rest)
    else if c = '\\' then
      match rest with
      | 'u' :: d₁ :: d₂ :: d₃ :: d₄ :: rest =>
        keep? (numbered? [d₁, d₂, d₃, d₄]) (takeBasicLines false rest)
      | 'U' :: d₁ :: d₂ :: d₃ :: d₄ :: d₅ :: d₆ :: d₇ :: d₈ :: rest =>
        keep? (numbered? [d₁, d₂, d₃, d₄, d₅, d₆, d₇, d₈]) (takeBasicLines false rest)
      | e :: more =>
        if endsLine (e :: more) then takeBasicLines true (e :: more)
        else keep? (shortEscape? e) (takeBasicLines false more)
      | [] => none
    else if isTextChar c then keep c (takeBasicLines false rest)
    else none

/-- Reads a literal over several lines to its three closing single marks. -/
def takeRawLines : List Char → Taken
  | [] => none
  | '\r' :: '\n' :: rest => keep '\n' (takeRawLines rest)
  | '\'' :: '\'' :: '\'' :: rest => some (closeLines '\'' rest)
  | c :: rest => if c = '\n' ∨ isTextChar c then keep c (takeRawLines rest) else none

/-- The text without the line end at its front, if there is one. -/
def dropLineEnd : List Char → List Char
  | '\n' :: rest => rest
  | '\r' :: '\n' :: rest => rest
  | cs => cs

/-- Reads a literal of one line, if the text begins with one. -/
def takeLine? : List Char → Option Taken
  | '"' :: rest => some (takeBasic rest)
  | '\'' :: rest => some (takeRaw rest)
  | _ => none

/-- Reads a literal of any kind, if the text begins with one. -/
def take? : List Char → Option Taken
  | '"' :: '"' :: '"' :: rest => some (takeBasicLines false (dropLineEnd rest))
  | '\'' :: '\'' :: '\'' :: rest => some (takeRawLines (dropLineEnd rest))
  | cs => takeLine? cs

end Literal

end TokenBinding.Toml
