import TokenBinding.Bytes
import TokenBinding.Text.Quoted

/-!
# Hexadecimal text

Identity keys, fingerprints and hashes are shown as lower-case digit pairs and read in either case.
Reading works on the bytes of the text: a text of odd length is refused before any digit is looked
at, and otherwise the first byte that is no digit is named with its position.
-/

namespace TokenBinding.Text.Hex

/-- Why a text is not hexadecimal. -/
inductive Error where
  | oddLength
  | invalidDigit (digit : UInt8) (position : Nat)
  deriving Repr, DecidableEq

/-- The wording of a refusal. A byte that is no digit is shown as the character of its number. -/
def Error.message : Error → String
  | .oddLength => "Odd number of digits"
  | .invalidDigit digit position =>
    "Invalid character " ++ Quoted.character (Char.ofNat digit.toNat) ++ " at position " ++
      toString position

/-- The digit for a number below 16. -/
def digit (n : Nat) : Char :=
  if n < 10 then Char.ofNat (48 + n) else Char.ofNat (87 + n)

/-- The number that a digit of either case stands for. -/
def value? (b : UInt8) : Option Nat :=
  let n := b.toNat
  if 48 ≤ n ∧ n ≤ 57 then some (n - 48)
  else if 97 ≤ n ∧ n ≤ 102 then some (n - 87)
  else if 65 ≤ n ∧ n ≤ 70 then some (n - 55)
  else none

/-- Two digits for each byte. -/
def encodeChars : Bytes → List Char
  | [] => []
  | b :: bs => digit (b.toNat / 16) :: digit (b.toNat % 16) :: encodeChars bs

/-- Bytes as lower-case digit pairs. -/
def encode (bs : Bytes) : String := String.ofList (encodeChars bs)

/-- Reads digit pairs from `position` on. -/
def decodePairs (position : Nat) : Bytes → Except Error Bytes
  | [] => .ok []
  | [_] => .error .oddLength
  | high :: low :: rest =>
    match value? high, value? low with
    | none, _ => .error (.invalidDigit high position)
    | some _, none => .error (.invalidDigit low (position + 1))
    | some h, some l => (decodePairs (position + 2) rest).map (UInt8.ofNat (16 * h + l) :: ·)

/-- The bytes that a text spells in hexadecimal. -/
def decode (s : String) : Except Error Bytes :=
  let digits := Bytes.ofText s
  if digits.length % 2 = 1 then .error .oddLength else decodePairs 0 digits

end TokenBinding.Text.Hex
