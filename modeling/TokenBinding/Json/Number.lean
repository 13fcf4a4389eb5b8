import TokenBinding.Json.Reading
import TokenBinding.Json.Value

/-!
# The value of a number

A number is read digit by digit into a significand of 64 bits. Digits that no longer fit are left
out: those of the whole part are counted in the exponent, those of the fraction are not. The
significand is then rounded to a binary fraction and scaled by the power of ten, each step rounded
on its own, so that the result may differ in the last place from the fraction that is nearest to the
number as written.

A whole number that fits is not rounded at all.

What is out of range is refused. The exponent itself may be too large to be held; then the number is
zero if it has to be, and refused at once if not.
-/

namespace TokenBinding.Json.Number

/-- A number as it is written: its digits, without the leading sign, the point and the mark of the
exponent. -/
structure Parts where
  negative : Bool
  whole : List Nat
  /-- The digits behind the point, if there is a point. -/
  fraction? : Option (List Nat) := none
  /-- Whether the exponent is negative, and its digits, if there is one. -/
  exponent? : Option (Bool × List Nat) := none
  deriving Repr, DecidableEq

/-- What a significand is kept below. -/
def significandBound : Nat := 1 <<< 64

/-- What an exponent is kept below. -/
def exponentBound : Nat := 1 <<< 31

/-- Takes digits into a number as long as it stays below a bound, and gives the digits left. -/
def gather (bound : Nat) (n : Nat) : List Nat → Nat × List Nat
  | [] => (n, [])
  | d :: rest =>
    if 10 * n + d < bound then gather bound (10 * n + d) rest else (n, d :: rest)

theorem gather_lt {bound n : Nat} (h : n < bound) (ds : List Nat) :
    (gather bound n ds).1 < bound := by
  induction ds generalizing n with
  | nil => exact h
  | cons d rest ih =>
    rw [gather]
    split
    · next fits => exact ih fits
    · exact h

/-- The greatest power of ten by which a number is scaled in one step. -/
def greatestStep : Nat := 308

/-- Divides by a power of ten, in steps. -/
def divideByPower (f : Magnitude) (n : Nat) : Magnitude :=
  if f.mantissa = 0 then f
  else if n ≤ greatestStep then f.scaleDown n
  else divideByPower (f.scaleDown greatestStep) (n - greatestStep)
termination_by n
decreasing_by simp_all [greatestStep]; omega

/-- Scales by a power of ten, unless the result is out of range. -/
def scale? (f : Magnitude) : (e : Int) → Option Magnitude
  | .ofNat n =>
    if n ≤ greatestStep then f.scaleUp? n else if f.mantissa = 0 then some f else none
  | .negSucc n => some (divideByPower f (n + 1))

/-- The number of a significand and an exponent. -/
def scaled (negative : Bool) (significand : Nat) (e : Int) : Reading Value :=
  match scale? (.ofNat significand) e with
  | some f => .ok (.real ⟨negative, f⟩)
  | none => .error .atEnd

/-- A whole number without fraction and exponent whose digits fit. -/
def ofWhole (negative : Bool) (n : Nat) : Value :=
  if negative then
    if 0 < n ∧ n ≤ 1 <<< 63 then .integer (-n) else .real ⟨true, .ofNat n⟩
  else .integer n

/-- The number of a significand that stands over a power of ten and has an exponent. -/
def withExponent (negative : Bool) (significand : Nat) (e : Int) (below : Bool)
    (digits : List Nat) : Reading Value :=
  match gather exponentBound 0 digits with
  | (n, []) => scaled negative significand (if below then e - n else e + n)
  | (_, _ :: rest) =>
    if significand = 0 ∨ below then .ok (.real ⟨negative, .zero⟩)
    else .error (if rest.isEmpty then .atEnd else .inside)

/-- The value of a number. -/
def Parts.value (p : Parts) : Reading Value :=
  let (whole, dropped) := gather significandBound 0 p.whole
  match p.fraction?, p.exponent?, dropped with
  | none, none, [] => .ok (ofWhole p.negative whole)
  | fraction?, exponent?, dropped =>
    let digits := fraction?.getD []
    let (significand, unused) := gather significandBound whole digits
    let e : Int := (dropped.length : Int) - ((digits.length - unused.length : Nat) : Int)
    match exponent? with
    | none => scaled p.negative significand e
    | some (below, ds) => withExponent p.negative significand e below ds

end TokenBinding.Json.Number
