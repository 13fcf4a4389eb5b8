import TokenBinding.Bytes

/-!
# Base64

Two alphabets are in use. Salts and nonces are written in the standard one, with the padding that
completes each group of four symbols; the parts of a token and the values of a key are written in
the one that is safe in URLs, without padding.

Reading is strict in both: exactly the padding that writing puts there, and no bit set beyond the
last byte. It looks at the bytes of a text, and a refusal names the first offence in this order: a
foreign symbol that is left alone behind the last group, a foreign symbol in a full group, one in
the last group, a symbol that is missing, padding that is wrong, bits that are left over.
-/

namespace TokenBinding.Text.Base64

/-- Which symbols stand for 62 and 63, and whether the last group is padded. -/
inductive Alphabet where
  /-- Symbols `+` and `/`, padded with `=`. -/
  | standard
  /-- Symbols `-` and `_`, never padded. -/
  | urlSafe
  deriving Repr, DecidableEq

/-- Why a text is not base64. Offsets count bytes. -/
inductive Error where
  | invalidByte (offset : Nat) (symbol : UInt8)
  | invalidLength (length : Nat)
  | invalidLastSymbol (offset : Nat) (symbol : UInt8)
  | invalidPadding
  deriving Repr, DecidableEq

/-- The wording of a refusal. -/
def Error.message : Error → String
  | .invalidByte offset symbol =>
    "Invalid symbol " ++ toString symbol.toNat ++ ", offset " ++ toString offset ++ "."
  | .invalidLength length => "Invalid input length: " ++ toString length
  | .invalidLastSymbol offset symbol =>
    "Invalid last symbol " ++ toString symbol.toNat ++ ", offset " ++ toString offset ++ "."
  | .invalidPadding => "Invalid padding"

/-- A refusal by its name and numbers. -/
def Error.name : Error → String
  | .invalidByte offset symbol =>
    "InvalidByte(" ++ toString offset ++ ", " ++ toString symbol.toNat ++ ")"
  | .invalidLength length => "InvalidLength(" ++ toString length ++ ")"
  | .invalidLastSymbol offset symbol =>
    "InvalidLastSymbol(" ++ toString offset ++ ", " ++ toString symbol.toNat ++ ")"
  | .invalidPadding => "InvalidPadding"

/-- The padding symbol `=`. -/
def pad : UInt8 := 61

/-- The symbol for a number below 64. -/
def Alphabet.symbol (α : Alphabet) (n : Nat) : UInt8 :=
  if n < 26 then UInt8.ofNat (65 + n)
  else if n < 52 then UInt8.ofNat (71 + n)
  else if n < 62 then UInt8.ofNat (n - 4)
  else
    match α with
    | .standard => if n = 62 then 43 else 47
    | .urlSafe => if n = 62 then 45 else 95

/-- The number that a symbol stands for. -/
def Alphabet.value? (α : Alphabet) (b : UInt8) : Option Nat :=
  let n := b.toNat
  if 65 ≤ n ∧ n ≤ 90 then some (n - 65)
  else if 97 ≤ n ∧ n ≤ 122 then some (n - 71)
  else if 48 ≤ n ∧ n ≤ 57 then some (n + 4)
  else
    match α with
    | .standard => if n = 43 then some 62 else if n = 47 then some 63 else none
    | .urlSafe => if n = 45 then some 62 else if n = 95 then some 63 else none

/-- The padding that completes a group which lacks `count` symbols. -/
def Alphabet.padding : Alphabet → (count : Nat) → Bytes
  | .standard, count => List.replicate count pad
  | .urlSafe, _ => []

/-- The symbols for a byte string, four for each three bytes. -/
def encodeSymbols (α : Alphabet) : Bytes → Bytes
  | [] => []
  | [a] => α.symbol (a.toNat / 4) :: α.symbol (a.toNat % 4 * 16) :: α.padding 2
  | [a, b] =>
    α.symbol (a.toNat / 4) :: α.symbol (a.toNat % 4 * 16 + b.toNat / 16) ::
      α.symbol (b.toNat % 16 * 4) :: α.padding 1
  | a :: b :: c :: rest =>
    α.symbol (a.toNat / 4) :: α.symbol (a.toNat % 4 * 16 + b.toNat / 16) ::
      α.symbol (b.toNat % 16 * 4 + c.toNat / 64) :: α.symbol (c.toNat % 64) :: encodeSymbols α rest

/-- A byte string in base64. -/
def encode (α : Alphabet) (bs : Bytes) : String :=
  String.ofList ((encodeSymbols α bs).map fun b => Char.ofNat b.toNat)

/-- The three bytes that four numbers below 64 make up. -/
def joinQuad (a b c d : Nat) : Bytes :=
  [UInt8.ofNat (a * 4 + b / 16), UInt8.ofNat (b % 16 * 16 + c / 4), UInt8.ofNat (c % 4 * 64 + d)]

/-- The last group of a text: its symbols with the numbers they stand for, and its padding. -/
structure LastGroup where
  symbols : List (UInt8 × Nat)
  padding : Nat
  deriving Repr, DecidableEq

/-- Counts padding to the end of the text. Anything else in it is laid to the first padding, which
stands at `first`. -/
def readPadding (first : Nat) : Bytes → Except Error Nat
  | [] => .ok 0
  | b :: rest =>
    if b = pad then (readPadding first rest).map (· + 1) else .error (.invalidByte first pad)

/-- Reads the last group, of which `index` symbols are read. Padding may start at the third
place. -/
def readLastGroup (α : Alphabet) (start index : Nat) : Bytes → Except Error LastGroup
  | [] => .ok ⟨[], 0⟩
  | b :: rest =>
    if b = pad then
      if index < 2 then .error (.invalidByte (start + index) b)
      else (readPadding (start + index) rest).map fun n => ⟨[], n + 1⟩
    else
      match α.value? b with
      | none => .error (.invalidByte (start + index) b)
      | some n =>
        (readLastGroup α start (index + 1) rest).map fun g => ⟨(b, n) :: g.symbols, g.padding⟩

/-- Whether the padding of a group of `symbols` symbols is as the alphabet asks. -/
def Alphabet.PaddingOk : Alphabet → (symbols padding : Nat) → Prop
  | .standard, symbols, padding => (padding + symbols) % 4 = 0
  | .urlSafe, _, padding => padding = 0

instance (α : Alphabet) (symbols padding : Nat) : Decidable (α.PaddingOk symbols padding) := by
  cases α <;> unfold Alphabet.PaddingOk <;> infer_instance

/-- The bytes of the last group, which starts at `start`. -/
def LastGroup.decode (α : Alphabet) (start : Nat) (g : LastGroup) : Except Error Bytes :=
  match g.symbols with
  | [] => .ok []
  | [_] => .error (.invalidLength (start + 1))
  | (_, a) :: (second, b) :: rest =>
    if ¬ α.PaddingOk g.symbols.length g.padding then .error .invalidPadding
    else
      match rest with
      | [] =>
        if b % 16 ≠ 0 then .error (.invalidLastSymbol (start + 1) second)
        else .ok [UInt8.ofNat (a * 4 + b / 16)]
      | [(third, c)] =>
        if c % 4 ≠ 0 then .error (.invalidLastSymbol (start + 2) third)
        else .ok [UInt8.ofNat (a * 4 + b / 16), UInt8.ofNat (b % 16 * 16 + c / 4)]
      | (_, c) :: (_, d) :: _ => .ok (joinQuad a b c d)

/-- The number of a symbol that may not be padding. -/
def readSymbol (α : Alphabet) (offset : Nat) (b : UInt8) : Except Error Nat :=
  match α.value? b with
  | some n => .ok n
  | none => .error (.invalidByte offset b)

/-- Reads group by group. The last four symbols or fewer are the last group. -/
def decodeGroups (α : Alphabet) (start : Nat) : Bytes → Except Error Bytes
  | a :: b :: c :: d :: e :: rest => do
    let quad := joinQuad (← readSymbol α start a) (← readSymbol α (start + 1) b)
      (← readSymbol α (start + 2) c) (← readSymbol α (start + 3) d)
    let tail ← decodeGroups α (start + 4) (e :: rest)
    return quad ++ tail
  | last => do (← readLastGroup α start 0 last).decode α start

/-- A foreign symbol alone behind the last full group. -/
def strayLast? (α : Alphabet) (symbols : Bytes) : Option UInt8 :=
  if symbols.length % 4 = 1 then
    match symbols.getLast? with
    | some b => if b = pad ∨ (α.value? b).isSome then none else some b
    | none => none
  else none

/-- The bytes that a symbol string spells. -/
def decodeSymbols (α : Alphabet) (symbols : Bytes) : Except Error Bytes :=
  match strayLast? α symbols with
  | some b => .error (.invalidByte (symbols.length - 1) b)
  | none => decodeGroups α 0 symbols

/-- The bytes that a text spells in base64. -/
def decode (α : Alphabet) (s : String) : Except Error Bytes :=
  decodeSymbols α (Bytes.ofText s)

end TokenBinding.Text.Base64
