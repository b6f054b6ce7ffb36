import SqlWeave.Decimal.Binary64
import SqlWeave.Document.Basic
import SqlWeave.Text.Scan

/-!
# Numbers in JSON

A number without fraction and exponent is a whole number if it fits 64 bits.
Every other number is a double: the leading digits that fit 64 bits are rounded
to a double, which is then multiplied or divided by one power of ten.  A result
past the largest double is refused.
-/

namespace SqlWeave.Document

/-- The greatest number of 64 bits. -/
def greatestWord : Nat := Nat.pow 2 64 - 1

/-- The greatest exponent of ten that is a double. -/
def greatestTenExponent : Nat := 308

/-- Append digits to a number as long as it fits 64 bits.  The result is the
number and how many digits were left out. -/
def appendDigits (number : Nat) : List Char → Nat × Nat
  | [] => (number, 0)
  | char :: rest =>
      let longer := number * 10 + Text.digitValue char
      if longer ≤ greatestWord then appendDigits longer rest
      else (number, rest.length + 1)

/-- A power of ten as a double. -/
def tenTo (exponent : Nat) : Float :=
  Decimal.Binary64.nearest (Nat.pow 10 exponent) 1

/-- Scale a double by a power of ten.  Below the least power it is divided by
the greatest one as often as needed; `count` bounds how often. -/
def scale? : Nat → Float → Int → Option Float
  | 0, _, _ => none
  | count + 1, value, exponent =>
      if exponent.natAbs ≤ greatestTenExponent then
        if 0 ≤ exponent then
          let scaled := value * tenTo exponent.natAbs
          if scaled.isInf then none else some scaled
        else some (value / tenTo exponent.natAbs)
      else if value == 0 then some value
      else if 0 ≤ exponent then none
      else
        scale? count (value / tenTo greatestTenExponent)
          (exponent + greatestTenExponent)

/-- Four divisions by the greatest power of ten leave zero, so eight steps are
enough. -/
def scaled? (significand : Nat) (exponent : Int) : Option Float :=
  scale? 8 (Decimal.Binary64.nearest significand 1) exponent

/-- The greatest exponent that is read as a number. -/
def greatestExponent : Nat := Nat.pow 2 31 - 1

/-- The double with this significand and written exponent, which counts from
`start`. -/
def withExponent? (significand : Nat) (start : Int) (positive : Bool)
    (written : Nat) : Option Float :=
  if greatestExponent < written then
    if significand ≠ 0 ∧ positive then none else some 0
  else
    scaled? significand (if positive then start + written else start - written)

/-- Read the digits of an exponent with an optional sign before them. -/
def scanExponent : Text.Scan (Bool × Nat) := do
  let sign ← Text.Scan.optional
    (Text.Scan.satisfy fun char => char == '+' || char == '-')
  let digits ← Text.Scan.takeWhile Char.isDigit
  if digits.isEmpty then failure
  pure (sign != some '-', Text.ofDigits digits)

/-- Read the digits before the point; a zero stands alone. -/
def scanWhole : Text.Scan (List Char) := do
  let digits ← Text.Scan.takeWhile Char.isDigit
  match digits with
  | [] => failure
  | '0' :: _ :: _ => failure
  | _ => pure digits

/-- Read the digits after the point, if there is one. -/
def scanFraction : Text.Scan (Option (List Char)) := do
  match ← Text.Scan.peek with
  | some '.' =>
      Text.Scan.exactly '.'
      let digits ← Text.Scan.takeWhile Char.isDigit
      if digits.isEmpty then failure
      pure (some digits)
  | _ => pure none

/-- Read the exponent, if there is one. -/
def scanOptionalExponent : Text.Scan (Option (Bool × Nat)) := do
  match ← Text.Scan.peek with
  | some 'e' | some 'E' =>
      let _ ← Text.Scan.next
      pure (some (← scanExponent))
  | _ => pure none

/-- Read a number. -/
def scanNumber : Text.Scan Document := do
  let minus ← Text.Scan.optional (Text.Scan.exactly '-')
  let wholeDigits ← scanWhole
  let fraction ← scanFraction
  let exponent ← scanOptionalExponent
  let (whole, droppedWhole) := appendDigits 0 wholeDigits
  if fraction.isNone ∧ exponent.isNone ∧ droppedWhole = 0 then
    if minus.isNone then return int whole
    if 0 < whole ∧ whole ≤ Nat.pow 2 63 then return int (-whole)
  let places := fraction.getD []
  let (significand, droppedPlaces) := appendDigits whole places
  let start : Int := droppedWhole + droppedPlaces - places.length
  let size :=
    match exponent with
    | none => scaled? significand start
    | some (positive, written) =>
        withExponent? significand start positive written
  match size with
  | some value => pure (float (if minus.isSome then -value else value))
  | none => failure

end SqlWeave.Document
