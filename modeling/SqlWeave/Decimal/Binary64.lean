/-!
# Binary floating point as exact numbers

A finite double is a whole number times a power of two.  `Binary64.ofFloat?`
takes a double apart that way, and `Binary64.nearest` finds the double nearest
to a fraction, a tie going to the even neighbour.

Powers are written with `Nat.pow`, the function itself, since `^` stands for
another instance where monoids are at hand.
-/

namespace SqlWeave.Decimal

/-- The finite double `mantissa * 2 ^ exponent`, negated if `negative`. -/
structure Binary64 where
  negative : Bool
  mantissa : Nat
  exponent : Int
  deriving DecidableEq, Repr

namespace Binary64

/-- The weight of the last place of the smallest doubles, as a power of two. -/
def leastExponent : Int := -1074

/-- The mantissa of a normal double starts here and stays below its double. -/
def leastNormal : Nat := Nat.pow 2 52

/-- A double taken apart; infinities and NaN have no parts. -/
def ofFloat? (value : Float) : Option Binary64 :=
  let bits := value.toBits.toNat
  let negative := bits / Nat.pow 2 63 == 1
  let biased := bits / leastNormal % Nat.pow 2 11
  let fraction := bits % leastNormal
  if biased = 2047 then none
  else if biased = 0 then some ⟨negative, fraction, leastExponent⟩
  else some ⟨negative, leastNormal + fraction, leastExponent + (biased - 1 : Nat)⟩

/-- The whole number nearest to a fraction, a tie going to the even one. -/
def roundHalfEven (numerator denominator : Nat) : Nat :=
  let quotient := numerator / denominator
  let twice := 2 * (numerator % denominator)
  if denominator < twice ∨ (twice = denominator ∧ quotient % 2 = 1) then
    quotient + 1
  else quotient

/-- The fraction in units of `2 ^ exponent`, as a numerator and a
denominator. -/
def inUnits (numerator denominator : Nat) (exponent : Int) : Nat × Nat :=
  (numerator * Nat.pow 2 (-exponent).toNat,
    denominator * Nat.pow 2 exponent.toNat)

/-- The exponent of the last place of the double nearest to a fraction. -/
def placeOf (numerator denominator : Nat) : Int :=
  let guess : Int := (numerator.log2 : Int) - denominator.log2 - 52
  let (scaled, unit) := inUnits numerator denominator guess
  max leastExponent (if scaled / unit < leastNormal then guess - 1 else guess)

/-- The bits of positive infinity. -/
def infinityBits : Nat := 2047 * leastNormal

/-- The double nearest to `numerator / denominator`.  A fraction past the
largest double becomes infinity. -/
def nearest (numerator denominator : Nat) : Float :=
  if numerator = 0 then 0
  else
    let place := placeOf numerator denominator
    let (scaled, unit) := inUnits numerator denominator place
    let bits :=
      (place - leastExponent).toNat * leastNormal + roundHalfEven scaled unit
    Float.ofBits (min bits infinityBits).toUInt64

/-- The double nearest to `digits * 10 ^ exponent`. -/
def ofDecimal (digits : Nat) (exponent : Int) : Float :=
  nearest (digits * Nat.pow 10 exponent.toNat)
    (Nat.pow 10 (-exponent).toNat)

/-- The double nearest to a whole number. -/
def ofInt (number : Int) : Float :=
  if number < 0 then -(nearest number.natAbs 1) else nearest number.natAbs 1

end Binary64

end SqlWeave.Decimal
