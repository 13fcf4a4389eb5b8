import TokenBinding.Bytes
import TokenBinding.Json.Number

/-!
# JSON tokens

The bytes of a document cut into punctuation, text literals and all other scalars. The rules are
those of RFC 8259 to the letter: four blank characters, no leading zeros, no raw control characters
and no unknown escapes in a literal.

A literal that keeps these rules may still spell no text: when its raw bytes are not UTF-8, or when
an escaped surrogate stands without its partner. A number may be out of range. Such a token carries
the stop at which its reader refuses it, and it is for whoever reads that part of the document to
come to that stop.
-/

namespace TokenBinding.Json

inductive Token where
  | beginObject
  | endObject
  | beginArray
  | endArray
  | colon
  | comma
  /-- A text literal. -/
  | text (s : Reading String)
  /-- A value of one word: `null`, a truth value or a number. -/
  | scalar (v : Reading Value)
  deriving Repr

namespace Token

/-- A byte as a decimal digit. -/
def digit? (b : UInt8) : Option Nat :=
  if 48 ≤ b.toNat ∧ b.toNat ≤ 57 then some (b.toNat - 48) else none

/-- A byte as a hexadecimal digit of either case. -/
def hexDigit? (b : UInt8) : Option Nat :=
  let n := b.toNat
  if 48 ≤ n ∧ n ≤ 57 then some (n - 48)
  else if 97 ≤ n ∧ n ≤ 102 then some (n - 87)
  else if 65 ≤ n ∧ n ≤ 70 then some (n - 55)
  else none

/-! ## Numbers -/

/-- The digits at the front of a word, and what follows them. -/
def takeDigits : Bytes → List Nat × Bytes
  | [] => ([], [])
  | b :: rest =>
    match digit? b with
    | some d => ((takeDigits rest).map (d :: ·) id)
    | none => ([], b :: rest)

/-- The digits of the whole part: at least one, and no zero before another. -/
def wholeDigits? : List Nat → Option (List Nat)
  | [] => none
  | [d] => some [d]
  | d :: e :: ds => if d = 0 then none else some (d :: e :: ds)

/-- The digits behind the point, if there is a point. -/
def fraction? : Bytes → Option (Option (List Nat) × Bytes)
  | [] => some (none, [])
  | b :: rest =>
    if b = 46 then
      match takeDigits rest with
      | ([], _) => none
      | (ds, rest) => some (some ds, rest)
    else some (none, b :: rest)

/-- The exponent, if there is one: whether it is negative, and its digits. -/
def exponent? : Bytes → Option (Option (Bool × List Nat) × Bytes)
  | [] => some (none, [])
  | b :: rest =>
    if b = 101 ∨ b = 69 then
      let (negative, rest) :=
        match rest with
        | [] => (false, [])
        | s :: tail =>
          if s = 45 then (true, tail) else if s = 43 then (false, tail) else (false, s :: tail)
      match takeDigits rest with
      | ([], _) => none
      | (ds, rest) => some (some (negative, ds), rest)
    else some (none, b :: rest)

/-- The parts of the number that a word spells. -/
def number? (word : Bytes) : Option Number.Parts :=
  let (negative, word) :=
    match word with
    | [] => (false, [])
    | b :: rest => if b = 45 then (true, rest) else (false, b :: rest)
  let (ds, rest) := takeDigits word
  match wholeDigits? ds, fraction? rest with
  | some whole, some (fraction, rest) =>
    match exponent? rest with
    | some (exponent, []) => some ⟨negative, whole, fraction, exponent⟩
    | _ => none
  | _, _ => none

/-- The scalar that a word spells. -/
def scalar? (word : Bytes) : Option (Reading Value) :=
  if word = Bytes.ofText "null" then some (.ok .null)
  else if word = Bytes.ofText "true" then some (.ok (.bool true))
  else if word = Bytes.ofText "false" then some (.ok (.bool false))
  else (number? word).map Number.Parts.value

/-- The bytes that numbers and names of scalars are made of. -/
def isWordByte (b : UInt8) : Bool :=
  let n := b.toNat
  (48 ≤ n && n ≤ 57) || (65 ≤ n && n ≤ 90) || (97 ≤ n && n ≤ 122) || n == 43 || n == 45 || n == 46

/-! ## Text literals -/

/-- What a text literal is made of: a byte that stands for itself or is written as a short escape,
or a 16-bit unit written by its number. -/
inductive Piece where
  | byte (b : UInt8)
  | unit (u : Nat)
  deriving Repr, DecidableEq

/-- The byte behind a short escape. -/
def shortEscape? (b : UInt8) : Option UInt8 :=
  if b = 34 ∨ b = 92 ∨ b = 47 then some b
  else if b = 98 then some 8
  else if b = 102 then some 12
  else if b = 110 then some 10
  else if b = 114 then some 13
  else if b = 116 then some 9
  else none

/-- The number that four hexadecimal digits spell. -/
def unit? (a b c d : UInt8) : Option Nat :=
  match hexDigit? a, hexDigit? b, hexDigit? c, hexDigit? d with
  | some a, some b, some c, some d => some (((16 * a + b) * 16 + c) * 16 + d)
  | _, _, _, _ => none

/-- Reads a literal from behind its opening mark to behind its closing mark. -/
def takeLiteral : Bytes → Option (List Piece × Bytes)
  | [] => none
  | b :: rest =>
    if b = 34 then some ([], rest)
    else if b = 92 then
      match rest with
      | [] => none
      | e :: rest =>
        if e = 117 then
          match rest with
          | h₁ :: h₂ :: h₃ :: h₄ :: rest =>
            match unit? h₁ h₂ h₃ h₄ with
            | some u => (takeLiteral rest).map fun p => (.unit u :: p.1, p.2)
            | none => none
          | _ => none
        else
          match shortEscape? e with
          | some x => (takeLiteral rest).map fun p => (.byte x :: p.1, p.2)
          | none => none
    else if b.toNat < 32 then none
    else (takeLiteral rest).map fun p => (.byte b :: p.1, p.2)

/-- Whether a unit is the first half of a pair of surrogates. -/
def isLeading (u : Nat) : Bool := 0xD800 ≤ u && u < 0xDC00

/-- Whether a unit is the second half of a pair of surrogates. -/
def isTrailing (u : Nat) : Bool := 0xDC00 ≤ u && u < 0xE000

/-- The UTF-8 bytes that the pieces spell. Two units that form a pair of surrogates are one
character; a surrogate without its partner spells nothing. The partner of a first half is looked for
in what follows, so a first half that is the last piece takes the reader behind the literal. -/
def spell : List Piece → Reading Bytes
  | [] => .ok []
  | .byte b :: rest => (spell rest).map (b :: ·)
  | .unit u :: rest =>
    if isLeading u then
      match rest with
      | [] => .error .atEnd
      | .byte _ :: _ => .error .inside
      | .unit v :: rest =>
        if isTrailing v then
          let c := Char.ofNat (0x10000 + (u - 0xD800) * 0x400 + (v - 0xDC00))
          (spell rest).map (String.utf8EncodeChar c ++ ·)
        else .error .inside
    else if isTrailing u then .error .inside
    else (spell rest).map (String.utf8EncodeChar (Char.ofNat u) ++ ·)

/-- The text that the pieces spell. Whether the bytes are UTF-8 is seen at the end. -/
def literal (pieces : List Piece) : Reading String :=
  match spell pieces with
  | .error stop => .error stop
  | .ok bytes =>
    match Bytes.toText? bytes with
    | some s => .ok s
    | none => .error .atEnd

/-! ## The scanner -/

/-- Space, tab and the two line ends. -/
def isSpace (b : UInt8) : Bool := b == 32 || b == 9 || b == 10 || b == 13

/-- The tokens of one byte. -/
def punctuation? (b : UInt8) : Option Token :=
  if b = 123 then some .beginObject
  else if b = 125 then some .endObject
  else if b = 91 then some .beginArray
  else if b = 93 then some .endArray
  else if b = 58 then some .colon
  else if b = 44 then some .comma
  else none

/-- Cuts at most `fuel` tokens and spaces off the front. -/
def scanWith : (fuel : Nat) → Bytes → Option (List Token)
  | _, [] => some []
  | 0, _ :: _ => none
  | fuel + 1, b :: rest =>
    if isSpace b then scanWith fuel rest
    else
      match punctuation? b with
      | some t => (scanWith fuel rest).map (t :: ·)
      | none =>
        if b = 34 then
          match takeLiteral rest with
          | some (pieces, rest) => (scanWith fuel rest).map (.text (literal pieces) :: ·)
          | none => none
        else
          match scalar? ((b :: rest).takeWhile isWordByte) with
          | some v => (scanWith fuel ((b :: rest).dropWhile isWordByte)).map (.scalar v :: ·)
          | none => none

/-- The tokens of a document. Every token and every space takes a byte, so no document is too
long. -/
def scan (bs : Bytes) : Option (List Token) := scanWith bs.length bs

end Token

end TokenBinding.Json
