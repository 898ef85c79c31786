/-!
# Binary floating point

Non-negative numbers of the IEEE 754 binary64 format, as exact values `mantissa * 2 ^ exponent`.
A quotient of naturals is rounded to the nearest such number, a tie going to the even mantissa;
what lies beyond the largest number has no image.  Decimal text is read by rounding its exact
value once, or in the steps of a fast reader, which round one after another.  It is written with
the fewest digits that round to the number.

All computations are on naturals, so every result can be reasoned about.
-/

namespace SecretProjection

/-- The number `mantissa * 2 ^ exponent`. -/
structure Binary64 where
  mantissa : Nat
  exponent : Int
  deriving DecidableEq, Repr

namespace Binary64

/-! ## Rounding -/

/-- The least exponent, which the numbers below the normal range share. -/
def minExponent : Int := -1074

def maxExponent : Int := 971

def zero : Binary64 := ⟨0, minExponent⟩

instance : Inhabited Binary64 := ⟨zero⟩

/-- The quotient rounded to the nearest natural, a half going to the even neighbour. -/
def divideEven (num den : Nat) : Nat :=
  let quotient := num / den
  let rest := num % den
  if 2 * rest < den then quotient
  else if den < 2 * rest then quotient + 1
  else if quotient % 2 = 0 then quotient
  else quotient + 1

/-- The quotient rounded to the nearest natural, a half going up. -/
def divideUp (num den : Nat) : Nat := (2 * num + den) / (2 * den)

/-- Numerator and denominator of `num / den / 2 ^ exponent`. -/
def scale (num den : Nat) (exponent : Int) : Nat × Nat :=
  if 0 ≤ exponent then (num, den * Nat.pow 2 exponent.toNat)
  else (num * Nat.pow 2 (-exponent).toNat, den)

/-- The exponent at which a positive quotient has a mantissa of 53 bits, or the least one. -/
def exponentOf (num den : Nat) : Int :=
  let guess : Int := (Nat.log2 num : Int) - Nat.log2 den - 52
  let (n, d) := scale num den guess
  max minExponent (if n < d * Nat.pow 2 52 then guess - 1 else guess)

/-- The nearest number to a quotient, unless it lies beyond the largest one. -/
def ofQuotient (num den : Nat) : Option Binary64 :=
  if num = 0 then some zero
  else
    let exponent := exponentOf num den
    let (n, d) := scale num den exponent
    let mantissa := divideEven n d
    let rounded : Binary64 :=
      if mantissa = Nat.pow 2 53 then ⟨Nat.pow 2 52, exponent + 1⟩ else ⟨mantissa, exponent⟩
    if maxExponent < rounded.exponent then none else some rounded

/-- The nearest number to a natural. -/
def ofNat (n : Nat) : Option Binary64 := ofQuotient n 1

/-- Numerator and denominator of the exact value. -/
def toQuotient (x : Binary64) : Nat × Nat :=
  if 0 ≤ x.exponent then (x.mantissa * Nat.pow 2 x.exponent.toNat, 1)
  else (x.mantissa, Nat.pow 2 (-x.exponent).toNat)

def isZero (x : Binary64) : Bool := x.mantissa == 0

/-! ## Arithmetic -/

/-- The product with a natural, rounded. -/
def scaleBy (x : Binary64) (n : Nat) : Option Binary64 :=
  let (num, den) := x.toQuotient
  ofQuotient (num * n) den

def mul (x y : Binary64) : Option Binary64 :=
  let (a, b) := x.toQuotient
  let (c, d) := y.toQuotient
  ofQuotient (a * c) (b * d)

/-- The quotient of a number and one that is not zero. -/
def div (x y : Binary64) : Option Binary64 :=
  let (a, b) := x.toQuotient
  let (c, d) := y.toQuotient
  ofQuotient (a * d) (b * c)

/-- The nearest whole number, a half going up. -/
def round (x : Binary64) : Nat :=
  let (num, den) := x.toQuotient
  divideUp num den

/-- The sum of two whole numbers, rounded to a number of the format. -/
def addWhole (a b : Nat) : Option Nat := (ofNat (a + b)).map round

/-! ## Decimal text -/

/-- The nearest number to `digits * 10 ^ exponent`. -/
def ofDecimal (digits : Nat) (exponent : Int) : Option Binary64 :=
  if digits = 0 then some zero
  else
    let size : Int := (Nat.toDigits 10 digits).length
    if 310 < size + exponent then none
    else if size + exponent < -330 then some zero
    else if 0 ≤ exponent then ofQuotient (digits * Nat.pow 10 exponent.toNat) 1
    else ofQuotient digits (Nat.pow 10 (-exponent).toNat)

/-- The largest power of ten in the range of the format. -/
def largestTens : Nat := 308

def powerOfTen (tens : Nat) : Option Binary64 := ofNat (Nat.pow 10 tens)

/-- Divides by the largest power of ten so many times, as long as something is left, and by
`10 ^ tens` in the end. -/
def divideTens (tens : Nat) : Nat -> Binary64 -> Option Binary64
  | 0, x => (powerOfTen tens).bind x.div
  | steps + 1, x =>
      if x.isZero then some x
      else (((powerOfTen largestTens).bind x.div).bind (divideTens tens steps))

/-- The number `digits * 10 ^ exponent` as a fast reader finds it.  The digits are rounded to a
number of the format, and so are the products and quotients with powers of ten. -/
def ofDecimalInSteps (digits : Nat) (exponent : Int) : Option Binary64 :=
  (ofNat digits).bind fun x =>
    if 0 ≤ exponent then
      if x.isZero then some x
      else if largestTens < exponent.toNat then none
      else (powerOfTen exponent.toNat).bind x.mul
    else
      let tens := (-exponent).toNat
      let steps := (tens - 1) / largestTens
      divideTens (tens - steps * largestTens) steps x

/-- A positive number with the reals that round to it, all over one denominator. -/
structure Neighbourhood where
  low : Nat
  value : Nat
  high : Nat
  den : Nat
  /-- Whether the ends round to the number too. -/
  closed : Bool

/-- The reals that round to a number.  Below a power of two they lie twice as dense. -/
def neighbourhood (x : Binary64) : Neighbourhood :=
  let below := if x.mantissa = Nat.pow 2 52 ∧ minExponent < x.exponent then 1 else 2
  let shift := x.exponent - 2
  let up := Nat.pow 2 shift.toNat
  { low := (4 * x.mantissa - below) * up
    value := 4 * x.mantissa * up
    high := (4 * x.mantissa + 2) * up
    den := Nat.pow 2 (-shift).toNat
    closed := x.mantissa % 2 == 0 }

/-- Whether `digits * 10 ^ exponent` rounds to the number. -/
def Neighbourhood.contains (n : Neighbourhood) (digits : Nat) (exponent : Int) : Bool :=
  let point := digits * Nat.pow 10 exponent.toNat * n.den
  let unit := Nat.pow 10 (-exponent).toNat
  if n.closed then n.low * unit ≤ point && point ≤ n.high * unit
  else n.low * unit < point && point < n.high * unit

/-- The neighbour on the grid `10 ^ exponent` that rounds to the number, the nearer of two. -/
def Neighbourhood.onGrid? (n : Neighbourhood) (exponent : Int) : Option Nat :=
  let grid := Nat.pow 10 exponent.toNat * n.den
  let scaled := n.value * Nat.pow 10 (-exponent).toNat
  let floor := scaled / grid
  let lower := 0 < floor && n.contains floor exponent
  let upper := n.contains (floor + 1) exponent
  if lower && upper then some (divideEven scaled grid)
  else if lower then some floor
  else if upper then some (floor + 1)
  else none

/-- The place of the first digit of a positive quotient: zero for a value from one up to ten. -/
def firstPlace (num den : Nat) : Int :=
  if den ≤ num then (Nat.toDigits 10 (num / den)).length - 1
  else
    let rec below (fuel : Nat) (scaled : Nat) (place : Int) : Int :=
      match fuel with
      | 0 => place
      | fuel + 1 => if den ≤ scaled then place else below fuel (scaled * 10) (place - 1)
    below 400 (num * 10) (-1)

/-- The first grid, from coarse to fine, with a point that rounds to the number. -/
def Neighbourhood.shortest (n : Neighbourhood) (place : Int) : Nat -> Nat × Int
  | 0 => (n.value / n.den, 0)
  | fuel + 1 =>
      let exponent := place - (16 - fuel)
      match n.onGrid? exponent with
      | some digits => (digits, exponent)
      | none => n.shortest place fuel

/-- The fewest decimal digits that read back as the positive number, and the place of the last
one. -/
def shortestDecimal (x : Binary64) : Nat × Int :=
  let n := x.neighbourhood
  n.shortest (firstPlace n.value n.den) 17

end Binary64

end SecretProjection
