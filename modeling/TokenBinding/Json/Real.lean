import TokenBinding.Json.Binary

/-!
# The text of a real number

A binary fraction is written with the fewest decimal digits that round back to it. On the grid of
each length the two neighbours of the number are tried; of two that round back the nearer is taken,
and of two as near the one that ends in an even digit.

Layout of the digits: positional from 10⁻⁵ up to 10¹⁶, with `.0` behind a whole number; otherwise
one digit, a point if more follow, and the exponent behind `e`, always with its sign.
-/

namespace TokenBinding.Json

/-- The decimal places of a positive number that is below `10 ^ place`, and not below a tenth of
it. -/
def place (num den : Nat) : Int :=
  let below (e : Int) : Bool :=
    let p := powRatio 10 e
    num * p.2 < den * p.1
  let guess : Int := ((num.log2 : Int) - (den.log2 : Int)) * 30103 / 100000 - 1
  if below guess then guess
  else if below (guess + 1) then guess + 1
  else if below (guess + 2) then guess + 2
  else guess + 3

namespace Magnitude

/-- Whether `n · 10 ^ e` rounds to this magnitude. -/
def hasText (f : Magnitude) (n : Nat) (e : Int) : Bool :=
  let p := powRatio 10 e
  nearest (n * p.1) p.2 == f

/-- The whole number to write for `num / den`, if its neighbour below or above rounds back. -/
def onGrid? (num den : Nat) (roundsBack : Nat → Bool) : Option Nat :=
  let below := num / den
  match roundsBack below, roundsBack (below + 1) with
  | true, true => some (roundDiv num den)
  | true, false => some below
  | false, true => some (below + 1)
  | false, false => none

/-- The first grid of 1, 2, … digits, tried from `count` on, with a neighbour that rounds back. -/
def shortestFrom (f : Magnitude) (num den : Nat) (top : Int) :
    (tries : Nat) → (count : Nat) → Nat × Int
  | 0, count =>
    let e := top - count
    let p := powRatio 10 e
    (roundDiv (num * p.2) (den * p.1), e)
  | tries + 1, count =>
    let e := top - count
    let p := powRatio 10 e
    match onGrid? (num * p.2) (den * p.1) (fun n => f.hasText n e) with
    | some n => (n, e)
    | none => f.shortestFrom num den top tries (count + 1)

/-- Digits without zeros behind, and the exponent that makes up for them. -/
def stripZeros : (fuel : Nat) → Nat → Int → Nat × Int
  | 0, n, e => (n, e)
  | fuel + 1, n, e => if n ≠ 0 ∧ n % 10 = 0 then stripZeros fuel (n / 10) (e + 1) else (n, e)

/-- The fewest digits and the exponent that read back as this positive magnitude. Seventeen digits
always do. -/
def shortest (f : Magnitude) : Nat × Int :=
  let r := f.ratio
  let s := f.shortestFrom r.1 r.2 (place r.1 r.2) 16 1
  stripZeros 17 s.1 s.2

end Magnitude

/-- An exponent with its sign. -/
def exponentChars (e : Int) : List Char :=
  match e with
  | .ofNat n => '+' :: (toString n).toList
  | .negSucc n => '-' :: (toString (n + 1)).toList

/-- Digits laid out with a point or an exponent. -/
def layout (digits : Nat) (exponent : Int) : List Char :=
  let ds := (toString digits).toList
  let point : Int := ds.length + exponent
  if 0 ≤ exponent ∧ point ≤ 16 then
    ds ++ List.replicate exponent.toNat '0' ++ ".0".toList
  else if 0 < point ∧ point ≤ 16 then
    ds.take point.toNat ++ '.' :: ds.drop point.toNat
  else if -5 < point ∧ point ≤ 0 then
    "0.".toList ++ List.replicate (-point).toNat '0' ++ ds
  else
    let e := 'e' :: exponentChars (point - 1)
    match ds with
    | [d] => d :: e
    | d :: rest => d :: '.' :: rest ++ e
    | [] => e

/-- The text of a binary fraction. -/
def Binary.chars (x : Binary) : List Char :=
  let sign := if x.negative then ['-'] else []
  if x.magnitude.mantissa = 0 then sign ++ "0.0".toList
  else
    let s := x.magnitude.shortest
    sign ++ layout s.1 s.2

end TokenBinding.Json
