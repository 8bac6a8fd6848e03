/-!
# Binary floating point numbers

Finite binary floating point numbers of 64 bits, as sign, mantissa and exponent, with exact
arithmetic on natural numbers in place of machine operations.

- `Binary64`: the value `± mantissa · 2 ^ exponent`.
- `Binary64.ofDecimal?`: the number nearest to `± digits · 10 ^ exponent`, ties to the even
  mantissa; none when the magnitude is too large for a finite number.
- `Binary64.shortest`: the fewest decimal digits that read back, and of those the nearest.
-/

namespace ClusterWatch

/-- A finite binary floating point number `± mantissa · 2 ^ exponent`. The mantissa has 53 bits
unless the exponent is the least one. -/
structure Binary64 where
  negative : Bool
  mantissa : Nat
  exponent : Int
  deriving DecidableEq, Repr

namespace Binary64

/-- The exponent of the subnormal numbers. -/
def leastExponent : Int := -1074

/-- The greatest exponent of a finite number. -/
def greatestExponent : Int := 971

/-- The least mantissa of 53 bits. -/
def leastMantissa : Nat := 4503599627370496

/-- The zero of the given sign. -/
def zero (negative : Bool) : Binary64 :=
  ⟨negative, 0, leastExponent⟩

/-- A fraction with its integer nearest below, rounded to the nearest integer, ties to even. -/
def roundHalfEven (numerator denominator : Nat) : Nat :=
  let below := numerator / denominator
  let twice := 2 * (numerator % denominator)
  if twice < denominator then below
  else if denominator < twice then below + 1
  else if below % 2 = 0 then below else below + 1

/-- A fraction divided by a power of two, as numerator and denominator. -/
def scaleDown (numerator denominator : Nat) (exponent : Int) : Nat × Nat :=
  if 0 ≤ exponent then (numerator, denominator * Nat.pow 2 exponent.toNat)
  else (numerator * Nat.pow 2 (-exponent).toNat, denominator)

/-- The exponent at which a positive fraction has a mantissa of 53 bits, or the least one. -/
def exponentOf (numerator denominator : Nat) : Int :=
  let guess : Int := (numerator.log2 : Int) - denominator.log2 - 52
  let (n, d) := scaleDown numerator denominator guess
  let exact := if n < d * leastMantissa then guess - 1 else guess
  max exact leastExponent

/-- The number nearest to a positive fraction. -/
def ofFraction? (negative : Bool) (numerator denominator : Nat) : Option Binary64 :=
  let exponent := exponentOf numerator denominator
  let (n, d) := scaleDown numerator denominator exponent
  let mantissa := roundHalfEven n d
  let (mantissa, exponent) :=
    if mantissa = 2 * leastMantissa then (leastMantissa, exponent + 1) else (mantissa, exponent)
  if greatestExponent < exponent then none else some ⟨negative, mantissa, exponent⟩

/-- The number nearest to `± digits · 10 ^ exponent`, where `digits` has at most `width` digits. -/
def ofDecimal? (negative : Bool) (digits width : Nat) (exponent : Int) : Option Binary64 :=
  if digits = 0 then some (zero negative)
  else if 400 < exponent then none
  else if exponent + width < -400 then some (zero negative)
  else if 0 ≤ exponent then ofFraction? negative (digits * Nat.pow 10 exponent.toNat) 1
  else ofFraction? negative digits (Nat.pow 10 (-exponent).toNat)

/-- A natural number without the zeros at the end of its decimal digits, and their count. The
first argument bounds the count. -/
def stripZeros : Nat → Nat → Nat × Nat
  | 0, n => (n, 0)
  | bound + 1, n =>
    if n = 0 ∨ n % 10 ≠ 0 then (n, 0)
    else
      let (stripped, count) := stripZeros bound (n / 10)
      (stripped, count + 1)

/-- Whether `candidate · 10 ^ scale` reads back as the number: it lies between the midpoints to
the neighbours, which belong to the number exactly when its mantissa is even. -/
def readsBack (x : Binary64) (candidate : Nat) (scale : Int) : Bool :=
  -- everything in units of `2 ^ (exponent - 2)`
  let unit := x.exponent - 2
  let (cn, cd) :=
    if 0 ≤ scale then (candidate * Nat.pow 10 scale.toNat, 1)
    else (candidate, Nat.pow 10 (-scale).toNat)
  let (cn, cd) := scaleDown cn cd unit
  let narrowBelow := x.mantissa = leastMantissa ∧ leastExponent < x.exponent
  let low := if narrowBelow then 4 * x.mantissa - 1 else 4 * x.mantissa - 2
  let high := 4 * x.mantissa + 2
  if x.mantissa % 2 = 0 then low * cd ≤ cn && cn ≤ high * cd
  else low * cd < cn && cn < high * cd

/-- The value as a fraction. -/
def fraction (x : Binary64) : Nat × Nat :=
  if 0 ≤ x.exponent then (x.mantissa * Nat.pow 2 x.exponent.toNat, 1)
  else (x.mantissa, Nat.pow 2 (-x.exponent).toNat)

/-- The position of the first decimal digit of a positive fraction: the greatest `p` with
`10 ^ p` not above it. -/
def leadingPosition (numerator denominator : Nat) : Int :=
  if denominator ≤ numerator then ((Nat.toDigits 10 (numerator / denominator)).length : Int) - 1
  else
    let estimate := (Nat.toDigits 10 (denominator / numerator)).length
    if denominator ≤ numerator * Nat.pow 10 (estimate - 1) then -((estimate : Int) - 1)
    else -(estimate : Int)

/-- The best decimal of `count` digits: of the two neighbours on that grid that read back, the
nearer one, a tie going to the even digit. -/
def onGrid? (x : Binary64) (count : Nat) : Option (Nat × Int) :=
  let (n, d) := x.fraction
  let scale := leadingPosition n d - count + 1
  let (gn, gd) :=
    if 0 ≤ scale then (n, d * Nat.pow 10 scale.toNat) else (n * Nat.pow 10 (-scale).toNat, d)
  let below := gn / gd
  let nearest := roundHalfEven gn gd
  let other := if nearest = below then below + 1 else below
  if x.readsBack nearest scale then some (nearest, scale)
  else if x.readsBack other scale then some (other, scale)
  else none

/-- The fewest decimal digits that read back, as digits and a power of ten. -/
def shortest (x : Binary64) : Nat × Int :=
  if x.mantissa = 0 then (0, 0)
  else
    match (List.range 17).findSome? fun i => x.onGrid? (i + 1) with
    | some (digits, scale) =>
      let (stripped, count) := stripZeros 20 digits
      (stripped, scale + count)
    | none => (x.mantissa, 0)

end Binary64

end ClusterWatch
