import SchemaEngine.Number.Binary64

/-!
# Decimal texts of binary numbers

Writing uses the fewest digits that read back as the same number, and of those the nearest. Reading
takes a decimal significand and a power of ten and multiplies or divides by that power once, which
rounds twice where the significand has more than 53 bits.

## Main definitions

* `Decimal.shortest`: the digits and the power of ten of a number.
* `Decimal.format`: the text of a number.
* `Decimal.scale`: the number for a significand and a power of ten.
-/

set_option autoImplicit false

namespace SchemaEngine.Decimal

open Binary64

/-- The greatest power of ten that is not above a quotient of positive numbers. -/
def floorLog10 (num den : Nat) : Int :=
  if den ≤ num then ((Nat.toDigits 10 (num / den)).length : Int) - 1
  else
    let zeros := (Nat.toDigits 10 (den / num)).length
    if den ≤ num * Nat.pow 10 (zeros - 1) then -((zeros : Int) - 1) else -(zeros : Int)

/-- `digits * 10 ^ power` as a quotient. -/
def toRatio (digits : Nat) (power : Int) : Nat × Nat :=
  if 0 ≤ power then (digits * Nat.pow 10 power.toNat, 1) else (digits, Nat.pow 10 (-power).toNat)

/-- Whether a decimal reads back as the number. -/
def readsBack (x : Magnitude) (digits : Nat) (power : Int) : Bool :=
  let (num, den) := toRatio digits power
  Magnitude.ofRatio num den == some x

/-- The decimal with the given last place that is nearest to the number, among the two around it
that read back as it. -/
def neighbour (x : Magnitude) (power : Int) : Option Nat :=
  let (num, den) := x.toRatio
  let (n, d) :=
    if 0 ≤ power then (num, den * Nat.pow 10 power.toNat)
    else (num * Nat.pow 10 (-power).toNat, den)
  let below := n / d
  let above := below + 1
  match readsBack x below power, readsBack x above power with
  | false, false => none
  | true, false => some below
  | false, true => some above
  | true, true => some (divideToEven n d)

/-- The shortest decimal with at least `17 - tries` digits after the first, starting at the last
place `power`. -/
def search (x : Magnitude) : Nat → Int → Nat × Int
  | 0, power => (((neighbour x power).getD 0), power)
  | tries + 1, power =>
    match neighbour x power with
    | some digits => (digits, power)
    | none => search x tries (power - 1)

/-- The fewest digits that read back as a number that is not zero, and the power of ten of the last
one. -/
def shortest (x : Magnitude) : Nat × Int :=
  let (num, den) := x.toRatio
  search x 17 (floorLog10 num den)

/-- Where positional notation is used: the least and the greatest power of ten of the first
digit. -/
def positionalFrom : Int := -5

/-- The greatest power of ten of the first digit that is written positionally. -/
def positionalTo : Int := 15

/-- The digits of a decimal without the zeros at its end, and the power of ten of the first one. -/
def significantDigits (digits : Nat) (power : Int) : List Char × Int :=
  let all := Nat.toDigits 10 digits
  ((all.reverse.dropWhile (· = '0')).reverse, power + (all.length : Int) - 1)

/-- The text of digits whose first one has the given power of ten: positional from `positionalFrom`
to `positionalTo`, with a digit on both sides of the point, and with a signed exponent beyond. -/
def layout (digits : List Char) (first : Int) : List Char :=
  if positionalFrom ≤ first && first ≤ positionalTo then
    if first < 0 then '0' :: '.' :: List.replicate ((-first).toNat - 1) '0' ++ digits
    else
      let whole := first.toNat + 1
      if digits.length ≤ whole then
        digits ++ List.replicate (whole - digits.length) '0' ++ ['.', '0']
      else digits.take whole ++ '.' :: digits.drop whole
  else
    let mantissa :=
      match digits with
      | d :: e :: rest => d :: '.' :: e :: rest
      | ds => ds
    mantissa ++ 'e' :: (if first < 0 then '-' else '+') :: Nat.toDigits 10 first.natAbs

/-- The text of a number. -/
def format (x : Binary64) : String :=
  let unsigned :=
    if x.magnitude.isZero then ['0', '.', '0']
    else
      let (digits, power) := shortest x.magnitude
      let (significant, first) := significantDigits digits power
      layout significant first
  String.ofList (if x.negative then '-' :: unsigned else unsigned)

/-- The power of ten nearest to `10 ^ n`, for `n` up to 308. -/
def powerOfTen (n : Nat) : Magnitude :=
  (Magnitude.ofNat (Nat.pow 10 n)).getD .zero

/-- The greatest power of ten that the format holds. -/
def greatestPower : Nat := 308

/-- `x` times or over a power of ten that the format holds. -/
def shift (x : Magnitude) (power : Int) : Option Magnitude :=
  if 0 ≤ power then x.mul (powerOfTen power.natAbs) else x.div (powerOfTen power.natAbs)

/-- `x` times or over a power of ten. A power below the range is divided out in at most `steps`
steps of the greatest power, which leave nothing after two of them; a power above the range is too
large for any number but zero. -/
def scale : Nat → Magnitude → Int → Option Magnitude
  | 0, x, power => shift x power
  | steps + 1, x, power =>
    if power.natAbs ≤ greatestPower then shift x power
    else if x.isZero then some x
    else if 0 ≤ power then none
    else (x.div (powerOfTen greatestPower)).bind fun y => scale steps y (power + greatestPower)

/-- The number for a decimal significand and a power of ten, or nothing if it is too large. -/
def read (negative : Bool) (significand : Nat) (power : Int) : Option Binary64 :=
  (Magnitude.ofNat significand).bind fun x =>
    (scale (power.natAbs / greatestPower) x power).map (⟨negative, ·⟩)

end SchemaEngine.Decimal
