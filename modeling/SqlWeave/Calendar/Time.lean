import SqlWeave.Calendar.Date

/-!
# Times of day

A time of day with nanoseconds.  A leap second has no number of its own: it is
the second before it, with a whole second more in its nanoseconds.  It may be
inserted behind any second, but as it is written as the second that follows, only
behind the last one of a minute, as second 60, is it told from another second.
The fraction of a second is written with 0, 3, 6 or 9 digits, the fewest that are
exact.
-/

namespace SqlWeave.Calendar

/-- The nanoseconds of a second. -/
def wholeSecond : Nat := 1000000000

/-- Whether hour, minute, second and nanosecond name a time of day.  From a whole
second of nanoseconds on it is the leap second behind the second. -/
def isTime (hour minute second nanosecond : Nat) : Bool :=
  decide (hour < 24) && decide (minute < 60) && decide (second < 60) &&
    decide (nanosecond < 2 * wholeSecond)

/-- A time of day. -/
structure Time where
  hour : Nat
  minute : Nat
  second : Nat
  nanosecond : Nat
  valid : isTime hour minute second nanosecond = true
  deriving DecidableEq

namespace Time

/-- The time with these parts, if there is one. -/
def of? (hour minute second nanosecond : Nat) : Option Time :=
  if valid : isTime hour minute second nanosecond = true then
    some ⟨hour, minute, second, nanosecond, valid⟩
  else none

/-- The time that is written with these parts, if there is one. -/
def ofWritten? (hour minute second fraction : Nat) : Option Time :=
  if second = 60 then of? hour minute 59 (wholeSecond + fraction)
  else of? hour minute second fraction

/-- The second as it is written; a leap second counts as the one that follows. -/
def writtenSecond (time : Time) : Nat :=
  if time.nanosecond < wholeSecond then time.second else time.second + 1

/-- The nanoseconds behind the written second. -/
def fraction (time : Time) : Nat := time.nanosecond % wholeSecond

/-- The written fraction of a second, with its point. -/
def fractionText (nanosecond : Nat) : String :=
  if nanosecond = 0 then ""
  else if nanosecond % 1000000 = 0 then
    "." ++ Text.padded 3 (nanosecond / 1000000)
  else if nanosecond % 1000 = 0 then "." ++ Text.padded 6 (nanosecond / 1000)
  else "." ++ Text.padded 9 nanosecond

/-- The written time. -/
def text (time : Time) : String :=
  Text.padded 2 time.hour ++ ":" ++ Text.padded 2 time.minute ++ ":" ++
    Text.padded 2 time.writtenSecond ++ fractionText time.fraction

end Time

/-- Read an optional fraction of a second as nanoseconds.  Digits after the
ninth are dropped. -/
def scanFraction : Text.Scan Nat := do
  match ← Text.Scan.peek with
  | some '.' =>
      Text.Scan.exactly '.'
      let digits ← Text.Scan.takeWhile Char.isDigit
      if digits.isEmpty then failure
      let kept := digits.take 9
      pure (Text.ofDigits kept * Nat.pow 10 (9 - kept.length))
  | _ => pure 0

/-- Read the hour and the minute of a time. -/
def scanHourMinute : Text.Scan (Nat × Nat) := do
  let hour ← scanNumber 2
  scanSeparator ':'
  let minute ← scanNumber 2
  pure (hour, minute)

/-- Read the second of a time and its fraction in nanoseconds. -/
def scanSecond : Text.Scan (Nat × Nat) := do
  scanSeparator ':'
  let second ← scanNumber 2
  if 60 < second then failure
  pure (second, ← scanFraction)

/-- Read a time whose second must be given. -/
def scanTime : Text.Scan Time := do
  let (hour, minute) ← scanHourMinute
  let (second, fraction) ← scanSecond
  match Time.ofWritten? hour minute second fraction with
  | some time => pure time
  | none => failure

/-- Read a text that holds a time and blanks only.  A time without a second is
the start of its minute. -/
def Time.read? (text : String) : Option Time := do
  let (hour, minute, second, fraction) ← Text.Scan.readAll (do
    let (hour, minute) ← scanHourMinute
    let seconds ← Text.Scan.optional scanSecond
    Text.Scan.skipBlanks
    let (second, fraction) := seconds.getD (0, 0)
    pure (hour, minute, second, fraction)) text
  ofWritten? hour minute second fraction

end SqlWeave.Calendar
