import SqlWeave.Calendar.Time

/-!
# Dates and times of TOML

A date, a time, or both, and with both an offset from UTC.  They have no place
in documents and become text: a `T` between date and time, and the fraction of
a second without zeros at its end.
-/

namespace SqlWeave.Toml

/-- Read a number of exactly `count` digits. -/
def scanFixed (count : Nat) : Text.Scan Nat := do
  let digits ← Text.Scan.takeUpTo count Char.isDigit
  if digits.length ≠ count then failure
  pure (Text.ofDigits digits)

/-- Read a date. -/
def scanDate : Text.Scan Calendar.Date := do
  let year ← scanFixed 4
  Text.Scan.exactly '-'
  let month ← scanFixed 2
  Text.Scan.exactly '-'
  let day ← scanFixed 2
  match Calendar.Date.of? year month day with
  | some date => pure date
  | none => failure

/-- Read a time. -/
def scanTime : Text.Scan Calendar.Time := do
  let hour ← scanFixed 2
  Text.Scan.exactly ':'
  let minute ← scanFixed 2
  Text.Scan.exactly ':'
  let second ← scanFixed 2
  let fraction ← Calendar.scanFraction
  match Calendar.Time.ofWritten? hour minute second fraction with
  | some time => pure time
  | none => failure

/-- The written time. -/
def timeText (time : Calendar.Time) : String :=
  let places := (Text.padded 9 time.fraction).toList.reverse.dropWhile
    (· == '0')
  Text.padded 2 time.hour ++ ":" ++ Text.padded 2 time.minute ++ ":" ++
    Text.padded 2 time.writtenSecond ++
    if places.isEmpty then "" else "." ++ String.ofList places.reverse

/-- Read an offset from UTC and write it again; without one nothing is read. -/
def scanOffset : Text.Scan String := do
  match ← Text.Scan.peek with
  | some 'Z' | some 'z' =>
      let _ ← Text.Scan.next
      pure "Z"
  | some '+' | some '-' =>
      let sign ← Text.Scan.next
      let hours ← scanFixed 2
      Text.Scan.exactly ':'
      let minutes ← scanFixed 2
      if 24 ≤ hours ∨ 60 ≤ minutes then failure
      let sign := if hours + minutes = 0 then '+' else sign
      pure (String.singleton sign ++ Text.padded 2 hours ++ ":" ++
        Text.padded 2 minutes)
  | _ => pure ""

/-- Read a time with an optional offset after its separator from a date. -/
def scanTimeOfDate : Text.Scan String := do
  let _ ← Text.Scan.satisfy fun char =>
    char == 'T' || char == 't' || char == ' '
  let time ← scanTime
  let offset ← scanOffset
  pure ("T" ++ timeText time ++ offset)

/-- Read a date, a time, or both, and write it again. -/
def scanMoment : Text.Scan String :=
  Text.Scan.orElse
    (do
      let date ← scanDate
      let rest ← Text.Scan.optional scanTimeOfDate
      pure (date.text ++ rest.getD ""))
    (do
      let time ← scanTime
      pure (timeText time))

end SqlWeave.Toml
