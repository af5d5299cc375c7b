/-!
# Binary floating-point numbers of 64 bits

The finite numbers of the format, as exact integers: a sign, a significand below 2^53 and a power of
two not below 2^(-1074). Operations round to the nearest number, ties to the even significand, and
answer nothing where the result is too large for the format.

## Main definitions

* `Binary64.Magnitude`: a number that is not negative.
* `Binary64.Magnitude.ofRatio`: the number nearest to a quotient of natural numbers.
* `Binary64.Magnitude.mul`, `Binary64.Magnitude.div`: rounded product and quotient.
* `Binary64`: a number with its sign, zero included.
* `Binary64.isIntegral`, `Binary64.order`: whether a number is whole, and order by value.
-/

set_option autoImplicit false

namespace SchemaEngine

namespace Binary64

/-- A number that is not negative: `significand * 2 ^ exponent`. -/
structure Magnitude where
  significand : Nat
  exponent : Int
  deriving Repr, DecidableEq

/-- The least power of two of the format. -/
def leastExponent : Int := -1074

/-- The greatest power of two of the format. -/
def greatestExponent : Int := 971

/-- The quotient rounded to the nearest integer, ties to even. -/
def divideToEven (num den : Nat) : Nat :=
  let quotient := num / den
  let remainder := num % den
  if 2 * remainder < den then quotient
  else if den < 2 * remainder then quotient + 1
  else quotient + quotient % 2

/-- `num * 2 ^ (-shift)` over `den`, as a quotient of natural numbers. -/
def scaled (num den : Nat) (shift : Int) : Nat × Nat :=
  if 0 ≤ shift then (num, den * Nat.pow 2 shift.toNat) else (num * Nat.pow 2 (-shift).toNat, den)

/-- The greatest power of two that is not above a quotient of positive numbers. -/
def floorLog2 (num den : Nat) : Int :=
  let guess : Int := (Nat.log2 num : Int) - Nat.log2 den
  let (n, d) := scaled num den guess
  if d ≤ n then guess else guess - 1

namespace Magnitude

/-- Zero. -/
def zero : Magnitude := ⟨0, leastExponent⟩

/-- The number nearest to `num / den`, or nothing if that is too large. -/
def ofRatio (num den : Nat) : Option Magnitude :=
  if num = 0 || den = 0 then some zero
  else
    let exponent := max (floorLog2 num den - 52) leastExponent
    let (n, d) := scaled num den exponent
    let significand := divideToEven n d
    let rounded : Magnitude :=
      if significand = Nat.pow 2 53 then ⟨Nat.pow 2 52, exponent + 1⟩ else ⟨significand, exponent⟩
    if greatestExponent < rounded.exponent then none else some rounded

/-- The number nearest to a natural number. -/
def ofNat (n : Nat) : Option Magnitude :=
  ofRatio n 1

/-- The number as a quotient of natural numbers. -/
def toRatio (x : Magnitude) : Nat × Nat :=
  if 0 ≤ x.exponent then (x.significand * Nat.pow 2 x.exponent.toNat, 1)
  else (x.significand, Nat.pow 2 (-x.exponent).toNat)

/-- The rounded product. -/
def mul (x y : Magnitude) : Option Magnitude :=
  let (a, b) := x.toRatio
  let (c, d) := y.toRatio
  ofRatio (a * c) (b * d)

/-- The rounded quotient; `y` is not zero. -/
def div (x y : Magnitude) : Option Magnitude :=
  let (a, b) := x.toRatio
  let (c, d) := y.toRatio
  ofRatio (a * d) (b * c)

/-- Whether the number is zero. -/
def isZero (x : Magnitude) : Bool :=
  x.significand == 0

/-- Whether the number is whole. -/
def isIntegral (x : Magnitude) : Bool :=
  let (num, den) := x.toRatio
  num % den == 0

end Magnitude

end Binary64

/-- A finite number of the format, with its sign; zero has two. -/
structure Binary64 where
  negative : Bool
  magnitude : Binary64.Magnitude
  deriving Repr, DecidableEq

namespace Binary64

/-- Whether the number is whole. -/
def isIntegral (x : Binary64) : Bool :=
  x.magnitude.isIntegral

/-- The number as a quotient with a positive denominator. -/
def toRatio (x : Binary64) : Int × Nat :=
  let (num, den) := x.magnitude.toRatio
  (if x.negative then -(num : Int) else num, den)

/-- The order of a number and an integer by value. -/
def orderInt (x : Binary64) (n : Int) : Ordering :=
  let (num, den) := x.toRatio
  compare num (n * den)

/-- The order of numbers by value; the two zeros are equal. -/
def order (x y : Binary64) : Ordering :=
  let (a, b) := x.toRatio
  let (c, d) := y.toRatio
  compare (a * d) (c * b)

end Binary64

end SchemaEngine
