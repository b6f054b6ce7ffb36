import SqlWeave.Decimal.Binary64
import SqlWeave.Document.Basic
import SqlWeave.Text.Scan

/-!
# Numbers of TOML

Whole numbers have 64 bits and a sign; they may be written in four bases and
with underscores between digits.  All other numbers are doubles, rounded to
nearest.  Infinities and NaN have no place in documents and become null.
-/

namespace SqlWeave.Toml

/-- The digits of a text in which single underscores may stand between
them. -/
def digitsOf? (isDigit : Char → Bool) : List Char → Option (List Char)
  | [] => none
  | [char] => if isDigit char then some [char] else none
  | char :: next :: rest =>
      if isDigit char then
        if next = '_' then (digitsOf? isDigit rest).map (char :: ·)
        else (digitsOf? isDigit (next :: rest)).map (char :: ·)
      else none

/-- Read digits with single underscores between them. -/
def scanDigits (isDigit : Char → Bool) : Text.Scan (List Char) := do
  let written ← Text.Scan.takeWhile fun char => isDigit char || char == '_'
  match digitsOf? isDigit written with
  | some digits => pure digits
  | none => failure

/-- Read an optional sign; the result tells whether it is a minus. -/
def scanSign : Text.Scan Bool := do
  let sign ← Text.Scan.optional
    (Text.Scan.satisfy fun char => char == '+' || char == '-')
  pure (sign == some '-')

/-- Read decimal digits that do not start with a superfluous zero. -/
def scanWhole : Text.Scan (List Char) := do
  let digits ← scanDigits Char.isDigit
  match digits with
  | '0' :: _ :: _ => failure
  | _ => pure digits

/-- A whole number, if it fits 64 bits with a sign. -/
def wholeOf? (number : Int) : Option Document :=
  if -(Nat.pow 2 63 : Int) ≤ number ∧ number < Nat.pow 2 63 then some (.int number)
  else none

/-- The whole number that digits write in a base. -/
def ofDigitsIn (base : Nat) (digits : List Char) : Nat :=
  (digits.filterMap Text.hexValue?).foldl
    (fun total digit => total * base + digit) 0

/-- Whether the character is a digit of a base up to sixteen. -/
def isDigitIn (base : Nat) (char : Char) : Bool :=
  match Text.hexValue? char with
  | some value => decide (value < base)
  | none => false

/-- Read a whole number without sign in the base that `mark` stands for. -/
def scanBased (mark : Char) (base : Nat) : Text.Scan Document := do
  Text.Scan.word ['0', mark]
  let digits ← scanDigits (isDigitIn base)
  match wholeOf? (ofDigitsIn base digits) with
  | some number => pure number
  | none => failure

/-- Read a whole number in decimal digits. -/
def scanDecimal : Text.Scan Document := do
  let negative ← scanSign
  let number : Int := Text.ofDigits (← scanWhole)
  match wholeOf? (if negative then -number else number) with
  | some number => pure number
  | none => failure

/-- The greatest power of ten that can make a difference: doubles end near
`10 ^ 309` and `10 ^ -324`. -/
def farExponent : Nat := 400

/-- The double nearest to digits with a decimal exponent; out of range it is
infinite or zero. -/
def nearestDouble (digits : List Char) (exponent : Int) : Float :=
  let number := Text.ofDigits digits
  if number = 0 ∨ exponent + digits.length < -farExponent then 0
  else if farExponent < exponent then 1.0 / 0.0
  else Decimal.Binary64.ofDecimal number exponent

/-- Read an exponent, if there is one. -/
def scanExponent : Text.Scan (Option Int) := do
  match ← Text.Scan.peek with
  | some 'e' | some 'E' =>
      let _ ← Text.Scan.next
      let negative ← scanSign
      let size : Int := Text.ofDigits (← scanDigits Char.isDigit)
      pure (some (if negative then -size else size))
  | _ => pure none

/-- Read the digits after the point, if there is one. -/
def scanPlaces : Text.Scan (Option (List Char)) := do
  match ← Text.Scan.peek with
  | some '.' =>
      Text.Scan.exactly '.'
      pure (some (← scanDigits Char.isDigit))
  | _ => pure none

/-- Read a number with a point or an exponent.  One past the largest double is
refused; past the other end it is infinite. -/
def scanDouble : Text.Scan Document := do
  let negative ← scanSign
  let whole ← scanWhole
  let places ← scanPlaces
  let exponent ← scanExponent
  if places.isNone ∧ exponent.isNone then failure
  let digits := whole ++ places.getD []
  let size := nearestDouble digits
    (exponent.getD 0 - (places.getD []).length)
  if size.isInf then
    if negative then pure .null else failure
  else pure (.float (if negative then -size else size))

/-- Read an infinity or a NaN. -/
def scanUnbounded : Text.Scan Document := do
  let _ ← scanSign
  Text.Scan.orElse (Text.Scan.word "inf".toList) (Text.Scan.word "nan".toList)
  pure .null

/-- Read a number. -/
def scanNumber : Text.Scan Document :=
  [scanDouble, scanUnbounded, scanBased 'x' 16, scanBased 'o' 8,
    scanBased 'b' 2].foldr Text.Scan.orElse scanDecimal

end SqlWeave.Toml
