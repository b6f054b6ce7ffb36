import SqlWeave.Text.Scan

/-!
# Dates

A date of the proleptic Gregorian calendar.  Years from 0 to 9999 are written
with four digits; other years carry a sign and at least four digits.
-/

namespace SqlWeave.Calendar

/-- Whether the year has a 29 February. -/
def isLeapYear (year : Int) : Bool :=
  year % 4 == 0 && (year % 100 != 0 || year % 400 == 0)

/-- The number of days of a month. -/
def daysInMonth (year : Int) (month : Nat) : Nat :=
  if month = 2 then if isLeapYear year then 29 else 28
  else if month = 4 ∨ month = 6 ∨ month = 9 ∨ month = 11 then 30
  else 31

/-- The first year that has dates. -/
def firstYear : Int := -262143

/-- The last year that has dates. -/
def lastYear : Int := 262142

/-- Whether year, month and day name a date. -/
def isDate (year : Int) (month day : Nat) : Bool :=
  decide (firstYear ≤ year) && decide (year ≤ lastYear) &&
    decide (1 ≤ month) && decide (month ≤ 12) &&
      decide (1 ≤ day) && decide (day ≤ daysInMonth year month)

/-- A date. -/
structure Date where
  year : Int
  month : Nat
  day : Nat
  valid : isDate year month day = true
  deriving DecidableEq

namespace Date

/-- The date with this year, month and day, if there is one. -/
def of? (year : Int) (month day : Nat) : Option Date :=
  if valid : isDate year month day = true then some ⟨year, month, day, valid⟩
  else none

/-- The day before. -/
def previous? (date : Date) : Option Date :=
  if 1 < date.day then of? date.year date.month (date.day - 1)
  else if 1 < date.month then
    of? date.year (date.month - 1) (daysInMonth date.year (date.month - 1))
  else of? (date.year - 1) 12 31

/-- The day after. -/
def next? (date : Date) : Option Date :=
  if date.day < daysInMonth date.year date.month then
    of? date.year date.month (date.day + 1)
  else if date.month < 12 then of? date.year (date.month + 1) 1
  else of? (date.year + 1) 1 1

/-- The written year. -/
def yearText (year : Int) : String :=
  if 0 ≤ year ∧ year ≤ 9999 then Text.padded 4 year.toNat
  else if year < 0 then "-" ++ Text.padded 4 year.natAbs
  else "+" ++ Text.padded 4 year.natAbs

/-- The written date. -/
def text (date : Date) : String :=
  yearText date.year ++ "-" ++ Text.padded 2 date.month ++ "-" ++
    Text.padded 2 date.day

end Date

/-- Read a number of at most `most` digits after optional blanks. -/
def scanNumber (most : Nat) : Text.Scan Nat := do
  Text.Scan.skipBlanks
  let digits ← Text.Scan.takeUpTo most Char.isDigit
  if digits.isEmpty then failure
  pure (Text.ofDigits digits)

/-- Read a year.  Without a sign it has at most four digits. -/
def scanYear : Text.Scan Int := do
  Text.Scan.skipBlanks
  match ← Text.Scan.peek with
  | some '-' =>
      Text.Scan.exactly '-'
      let digits ← Text.Scan.takeWhile Char.isDigit
      if digits.isEmpty then failure
      pure (-(Text.ofDigits digits : Int))
  | some '+' =>
      Text.Scan.exactly '+'
      let digits ← Text.Scan.takeWhile Char.isDigit
      if digits.isEmpty then failure
      pure (Text.ofDigits digits)
  | _ => pure (← scanNumber 4)

/-- Read a separator after optional blanks. -/
def scanSeparator (char : Char) : Text.Scan Unit := do
  Text.Scan.skipBlanks
  Text.Scan.exactly char

/-- Read a date.  Blanks may stand before each of its parts. -/
def scanDate : Text.Scan Date := do
  let year ← scanYear
  scanSeparator '-'
  let month ← scanNumber 2
  scanSeparator '-'
  let day ← scanNumber 2
  match Date.of? year month day with
  | some date => pure date
  | none => failure

/-- Read a text that holds a date and blanks only. -/
def Date.read? (text : String) : Option Date :=
  Text.Scan.readAll (do
    let date ← scanDate
    Text.Scan.skipBlanks
    pure date) text

end SqlWeave.Calendar
