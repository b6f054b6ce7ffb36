import SqlWeave.Decimal.Binary64

/-!
# Shortest decimals

The reals that round to one double form an interval.  The shortest decimal of
that double is the point of this interval on the coarsest power-of-ten grid
that has one.  Of two such points the nearer one is taken; a tie goes up or to
the even digit, as the writer prefers.
-/

namespace SqlWeave.Decimal

/-- Which of two neighbouring points is taken if both are equally near. -/
inductive Tie where
  | up
  | even
  deriving DecidableEq, Repr

/-- Whether a tie goes to the lower point, `below`. -/
def Tie.takesLower (tie : Tie) (below : Nat) : Bool :=
  match tie with
  | up => false
  | even => below % 2 == 0

/-- The reals that round to one double, in units of `2 ^ exponent`.  The ends
belong to it if `closed`. -/
structure RoundingInterval where
  low : Nat
  value : Nat
  high : Nat
  exponent : Int
  closed : Bool
  deriving DecidableEq, Repr

namespace RoundingInterval

/-- The interval of a positive double.  Below the first mantissa of a binade
the doubles lie twice as dense. -/
def of (parts : Binary64) : RoundingInterval where
  low :=
    if parts.mantissa = Binary64.leastNormal ∧
        Binary64.leastExponent < parts.exponent then
      4 * parts.mantissa - 1
    else 4 * parts.mantissa - 2
  value := 4 * parts.mantissa
  high := 4 * parts.mantissa + 2
  exponent := parts.exponent - 2
  closed := parts.mantissa % 2 == 0

/-- The point of the interval on the grid `10 ^ place` that is nearest to the
value, if the grid has a point in the interval. -/
def onGrid? (interval : RoundingInterval) (tie : Tie) (place : Int) :
    Option Nat :=
  let grid := Nat.pow 10 place.toNat * Nat.pow 2 (-interval.exponent).toNat
  let unit := Nat.pow 2 interval.exponent.toNat * Nat.pow 10 (-place).toNat
  let low := interval.low * unit
  let high := interval.high * unit
  let inside (point : Nat) : Bool :=
    if interval.closed then low ≤ point * grid && point * grid ≤ high
    else low < point * grid && point * grid < high
  let below := interval.value * unit / grid
  let excess := interval.value * unit % grid
  match inside below, inside (below + 1) with
  | true, true =>
      some (if 2 * excess < grid ∨
          (2 * excess = grid ∧ tie.takesLower below = true) then below
        else below + 1)
  | true, false => some below
  | false, true => some (below + 1)
  | false, false => none

/-- Try the grids from `10 ^ place` on down, at most `count` of them. -/
def search (interval : RoundingInterval) (tie : Tie) :
    Nat → Int → Nat × Int
  | 0, place => (0, place)
  | count + 1, place =>
      match interval.onGrid? tie place with
      | some digits => (digits, place)
      | none => interval.search tie count (place - 1)

end RoundingInterval

/-- The digits and the exponent of ten of the shortest decimal that rounds to
a positive double.  Every double lies between `10 ^ -324` and `10 ^ 309`, and
seventeen digits always suffice. -/
def shortest (tie : Tie) (parts : Binary64) : Nat × Int :=
  (RoundingInterval.of parts).search tie 652 309

end SqlWeave.Decimal
