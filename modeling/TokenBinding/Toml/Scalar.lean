import TokenBinding.Text.Segments
import TokenBinding.Toml.Value

/-!
# TOML scalars

Truth values, numbers, dates and times are words without quotation marks.

* Digits may be grouped by single underscores between them. A decimal number has no zero in front of
  another digit; numbers to the bases 16, 8 and 2 have no sign. Whole numbers fit into 64 bits with
a   sign.
* A number with a fraction or an exponent, unless it has a minus sign, is not beyond the largest
  64-bit binary fraction.
* Dates are days of the calendar, and times of day may have a leap second. Between a date and a time
  stands `T`, `t` or a single space.
-/

namespace TokenBinding.Toml.Scalar

/-! ## Numbers -/

/-- The digits of a number, of which single underscores may stand between two. -/
def ungroup? (isOne : Char → Bool) : List Char → Option (List Char)
  | [] => none
  | [c] => if isOne c then some [c] else none
  | c :: d :: rest =>
    if !isOne c then none
    else if d = '_' then (ungroup? isOne rest).map (c :: ·)
    else (ungroup? isOne (d :: rest)).map (c :: ·)

/-- The number that digits spell to a base. -/
def ofDigits (base : Nat) (digits : List Char) : Nat :=
  digits.foldl
    (fun n c => base * n +
      (if isDigit c then c.toNat - 48 else if c.isLower then c.toNat - 87 else c.toNat - 55)) 0

/-- A sign, and what follows it. -/
def takeSign : List Char → Bool × List Char
  | '-' :: rest => (true, rest)
  | '+' :: rest => (false, rest)
  | cs => (false, cs)

/-- The digits of a decimal number without a zero in front. -/
def decimal? (cs : List Char) : Option (List Char) :=
  match ungroup? isDigit cs with
  | some ('0' :: _ :: _) => none
  | other => other

/-- A whole number, if it fits. -/
def fit? (n : Int) : Option Value :=
  if Int64.minValue.toInt ≤ n ∧ n ≤ Int64.maxValue.toInt then some (.integer n) else none

/-- A whole number. -/
def integer? : List Char → Option Value
  | '0' :: 'x' :: digits =>
    (ungroup? (fun c => isDigit c || ('a' ≤ c && c ≤ 'f') || ('A' ≤ c && c ≤ 'F')) digits).bind
      fun ds => fit? (ofDigits 16 ds)
  | '0' :: 'o' :: digits =>
    (ungroup? (fun c => '0' ≤ c && c ≤ '7') digits).bind fun ds => fit? (ofDigits 8 ds)
  | '0' :: 'b' :: digits =>
    (ungroup? (fun c => c == '0' || c == '1') digits).bind fun ds => fit? (ofDigits 2 ds)
  | cs =>
    let (negative, digits) := takeSign cs
    (decimal? digits).bind fun ds =>
      let n : Int := ofDigits 10 ds
      fit? (if negative then -n else n)

/-- Whether `n · 10 ^ e` rounds to a number beyond the largest 64-bit binary fraction. -/
def isBeyond (n : Nat) (e : Int) : Bool :=
  let places : Int := (toString n).length + e
  if n = 0 ∨ places < 309 then false
  else if 309 < places then true
  else (1 <<< 1024 - 1 <<< 970) * Nat.pow 10 (-e).toNat ≤ n * Nat.pow 10 e.toNat

/-- A number with a fraction, an exponent, or both. -/
def real? (cs : List Char) : Option Value := do
  let (negative, unsigned) := takeSign cs
  let front := unsigned.takeWhile fun c => c != 'e' && c != 'E'
  let back := (unsigned.drop front.length).drop 1
  let (whole, fraction) ← match Text.cut? '.' front with
    | some (whole, fraction) => do
      pure (← decimal? whole, ← ungroup? isDigit fraction)
    | none => if front.length = unsigned.length then none else do pure (← decimal? front, [])
  let exponent : Int ← if front.length = unsigned.length then pure 0 else do
    let (down, digits) := takeSign back
    let n : Int := ofDigits 10 (← ungroup? isDigit digits)
    pure (if down then -n else n)
  if !negative && isBeyond (ofDigits 10 (whole ++ fraction)) (exponent - fraction.length) then none
  else return .real (String.ofList cs)

/-- An infinite number, or none at all. -/
def special? (cs : List Char) : Option Value :=
  let word := String.ofList (takeSign cs).2
  if word = "inf" ∨ word = "nan" then some (.real (String.ofList cs)) else none

/-! ## Dates and times -/

/-- The number that decimal digits alone spell. -/
def digits? (cs : List Char) : Option Nat := if cs.all isDigit then some (ofDigits 10 cs) else none

/-- The days of a month. -/
def daysIn (year month : Nat) : Nat :=
  if month = 2 then
    if year % 4 = 0 ∧ (year % 100 ≠ 0 ∨ year % 400 = 0) then 29 else 28
  else if month = 4 ∨ month = 6 ∨ month = 9 ∨ month = 11 then 30
  else 31

/-- Takes a date off the front. -/
def takeDate? : List Char → Option (List Char)
  | y₁ :: y₂ :: y₃ :: y₄ :: '-' :: m₁ :: m₂ :: '-' :: d₁ :: d₂ :: rest => do
    let year ← digits? [y₁, y₂, y₃, y₄]
    let month ← digits? [m₁, m₂]
    let day ← digits? [d₁, d₂]
    if 1 ≤ month ∧ month ≤ 12 ∧ 1 ≤ day ∧ day ≤ daysIn year month then some rest else none
  | _ => none

/-- Takes a time of day off the front. -/
def takeTime? : List Char → Option (List Char)
  | h₁ :: h₂ :: ':' :: m₁ :: m₂ :: ':' :: s₁ :: s₂ :: rest => do
    let hour ← digits? [h₁, h₂]
    let minute ← digits? [m₁, m₂]
    let second ← digits? [s₁, s₂]
    if hour ≤ 23 ∧ minute ≤ 59 ∧ second ≤ 60 then
      match rest with
      | '.' :: d :: more => if isDigit d then some (more.dropWhile isDigit) else none
      | rest => some rest
    else none
  | _ => none

/-- Whether this is the distance to universal time, or nothing. -/
def isOffset : List Char → Bool
  | [] => true
  | [z] => z == 'Z' || z == 'z'
  | [sign, h₁, h₂, ':', m₁, m₂] =>
    match digits? [h₁, h₂], digits? [m₁, m₂] with
    | some hour, some minute => (sign == '+' || sign == '-') && hour ≤ 23 && minute ≤ 59
    | _, _ => false
  | _ => false

/-- Whether this is a time of day, with the distance to universal time or without. -/
def isZonedTime (cs : List Char) : Bool := ((takeTime? cs).map isOffset).getD false

/-- A date, a time of day, or both with `T` between them. -/
def dateTime? (cs : List Char) : Option Value :=
  let valid := match takeDate? cs with
    | some [] => true
    | some (sep :: rest) => (sep == 'T' || sep == 't') && isZonedTime rest
    | none => takeTime? cs == some []
  if valid then some (.dateTime (String.ofList cs)) else none

/-! ## Words -/

/-- The characters of words. -/
def isWordChar (c : Char) : Bool :=
  c.isAlphanum || c == '+' || c == '-' || c == '_' || c == ':' || c == '.'

/-- The scalar that a word spells. -/
def ofWord? (word : List Char) : Option Value :=
  if word = "true".toList then some (.bool true)
  else if word = "false".toList then some (.bool false)
  else integer? word <|> real? word <|> special? word <|> dateTime? word

/-- Reads a scalar, and gives the text behind it. -/
def take? (cs : List Char) : Option (Value × List Char) :=
  let word := cs.takeWhile isWordChar
  let rest := cs.dropWhile isWordChar
  match takeDate? word, rest with
  | some [], ' ' :: c :: more =>
    if isDigit c then
      let time := (c :: more).takeWhile isWordChar
      if isZonedTime time then
        some (.dateTime (String.ofList (word ++ ' ' :: time)), (c :: more).dropWhile isWordChar)
      else none
    else (ofWord? word).map fun v => (v, rest)
  | _, _ => (ofWord? word).map fun v => (v, rest)

end TokenBinding.Toml.Scalar
