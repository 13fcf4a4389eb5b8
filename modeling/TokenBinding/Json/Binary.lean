/-!
# Binary fractions

The numbers that 64 bits hold: a sign and a magnitude `mantissa · 2 ^ exponent`, whose mantissa has
53 bits, or fewer where the exponent is the least one, -1074. Every magnitude has one form.

A quotient of natural numbers is rounded to the nearest magnitude, a half to the even one
(`Magnitude.nearest`). Products and quotients with powers of ten (`Magnitude.scaleUp?`,
`Magnitude.scaleDown`) are rounded once for the power and once for the result, and a product may be
out of range.
-/

namespace TokenBinding.Json

/-- The number `mantissa · 2 ^ exponent`. -/
structure Magnitude where
  mantissa : Nat
  exponent : Int
  deriving Repr, DecidableEq

/-- A magnitude or its negation. Zero has both signs. -/
structure Binary where
  negative : Bool
  magnitude : Magnitude
  deriving Repr, DecidableEq

/-- `b ^ e` as a quotient of natural numbers. -/
def powRatio (b : Nat) (e : Int) : Nat × Nat :=
  match e with
  | .ofNat n => (b.pow n, 1)
  | .negSucc n => (1, b.pow (n + 1))

/-- The quotient rounded to a whole number, a half to the even one. -/
def roundDiv (num den : Nat) : Nat :=
  let q := num / den
  let twice := 2 * (num % den)
  if twice > den ∨ (twice = den ∧ q % 2 = 1) then q + 1 else q

namespace Magnitude

/-- The least exponent. -/
def leastExponent : Int := -1074

/-- The greatest exponent of a number that 64 bits hold. -/
def greatestExponent : Int := 971

def zero : Magnitude := ⟨0, leastExponent⟩

/-- The number as a quotient of natural numbers. -/
def ratio (f : Magnitude) : Nat × Nat :=
  let p := powRatio 2 f.exponent
  (f.mantissa * p.1, p.2)

/-- The magnitude nearest to `num / den`, of whatever size. -/
def nearest (num den : Nat) : Magnitude :=
  if num = 0 then zero
  else
    let guess : Int := (num.log2 : Int) - (den.log2 : Int) - 52
    let fits (e : Int) : Nat × Nat :=
      let p := powRatio 2 (-e)
      (num * p.1, den * p.2)
    let e := if (fits guess).1 < (fits guess).2 <<< 52 then guess - 1 else guess
    let e := if e < leastExponent then leastExponent else e
    let m := roundDiv (fits e).1 (fits e).2
    if m = 1 <<< 53 then ⟨1 <<< 52, e + 1⟩ else ⟨m, e⟩

/-- The magnitude nearest to a natural number. -/
def ofNat (n : Nat) : Magnitude := nearest n 1

/-- The magnitude nearest to a power of ten. -/
def powerOfTen (n : Nat) : Magnitude := nearest (Nat.pow 10 n) 1

/-- The product with a power of ten, unless it is out of range. -/
def scaleUp? (f : Magnitude) (n : Nat) : Option Magnitude :=
  let a := f.ratio
  let b := (powerOfTen n).ratio
  let product := nearest (a.1 * b.1) (a.2 * b.2)
  if product.exponent ≤ greatestExponent then some product else none

/-- The quotient by a power of ten. -/
def scaleDown (f : Magnitude) (n : Nat) : Magnitude :=
  let a := f.ratio
  let b := (powerOfTen n).ratio
  nearest (a.1 * b.2) (a.2 * b.1)

end Magnitude

end TokenBinding.Json
