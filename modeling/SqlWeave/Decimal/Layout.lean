import SqlWeave.Decimal.Shortest

/-!
# Decimal text of doubles

A double is written with its shortest digits, in one of two layouts.  The
plain layout never has an exponent and gives whole numbers no point.  The
compact layout has an exponent where the first digit stands far from the
point, and adds `.0` to whole numbers without one.  In both a negative zero
keeps its sign, and the values that are no numbers have the texts `NaN`, `inf`
and `-inf`.
-/

namespace SqlWeave.Decimal

/-- The number `digits * 10 ^ exponent` written without an exponent. -/
def positional (digits : Nat) (exponent : Int) : String :=
  let text := toString digits
  if 0 ≤ exponent then
    text ++ String.ofList (List.replicate exponent.toNat '0')
  else
    let places := (-exponent).toNat
    let filled :=
      List.replicate (places + 1 - text.length) '0' ++ text.toList
    let whole := filled.length - places
    String.ofList (filled.take whole ++ '.' :: filled.drop whole)

/-- The digits with a point after the first one, and an exponent with its sign.
`place` is the power of ten that the first digit counts. -/
def scientific (digits : Nat) (place : Int) : String :=
  let chars := (toString digits).toList
  let point := if chars.length = 1 then "" else "."
  let sign := if place < 0 then "-" else "+"
  String.ofList (chars.take 1) ++ point ++ String.ofList (chars.drop 1) ++
    "e" ++ sign ++ toString place.natAbs

/-- A way to write doubles. -/
inductive Layout where
  | plain
  | compact
  deriving DecidableEq, Repr

namespace Layout

/-- Which of two equally near decimals is written. -/
def tie : Layout → Tie
  | plain => .up
  | compact => .even

/-- Whether there is no exponent if the first digit counts this power of
ten. -/
def isPositional : Layout → Int → Bool
  | plain, _ => true
  | compact, place => decide (-5 ≤ place) && decide (place ≤ 15)

/-- What follows a whole number without an exponent. -/
def wholeEnd : Layout → String
  | plain => ""
  | compact => ".0"

/-- The written number `digits * 10 ^ exponent`. -/
def number (layout : Layout) (digits : Nat) (exponent : Int) : String :=
  let place := exponent + ((toString digits).length - 1 : Nat)
  if layout.isPositional place then
    positional digits exponent ++ if 0 ≤ exponent then layout.wholeEnd else ""
  else scientific digits place

/-- The written double. -/
def text (layout : Layout) (value : Float) : String :=
  match Binary64.ofFloat? value with
  | none =>
      if value.isNaN then "NaN"
      else if value < 0 then "-inf"
      else "inf"
  | some parts =>
      let (digits, exponent) :=
        if parts.mantissa = 0 then (0, 0) else shortest layout.tie parts
      (if parts.negative then "-" else "") ++ layout.number digits exponent

end Layout

/-- The plain text of a double. -/
def text (value : Float) : String := Layout.plain.text value

/-- The compact text of a double. -/
def compactText (value : Float) : String := Layout.compact.text value

end SqlWeave.Decimal
