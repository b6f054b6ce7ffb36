import SqlWeave.Calendar.Time

/-!
# Timestamps

A date with a time of day.  A timestamp read with an offset from UTC is
converted to UTC; its second, even a leap second, is not touched because
offsets are whole minutes.
-/

namespace SqlWeave.Calendar

/-- A date with a time of day. -/
structure Timestamp where
  date : Date
  time : Time
  deriving DecidableEq

namespace Timestamp

/-- The timestamp with `separator` between the date and the time. -/
def text (timestamp : Timestamp) (separator : String) : String :=
  timestamp.date.text ++ separator ++ timestamp.time.text

/-- The timestamp this many minutes earlier.  There is none outside the years
that have dates. -/
def minutesEarlier? (timestamp : Timestamp) (minutes : Int) :
    Option Timestamp := do
  let total : Int :=
    timestamp.time.hour * 60 + timestamp.time.minute - minutes
  let days := total.fdiv 1440
  let minuteOfDay := (total.fmod 1440).toNat
  let date ←
    if days = -1 then timestamp.date.previous?
    else if days = 1 then timestamp.date.next?
    else some timestamp.date
  let time ← Time.of? (minuteOfDay / 60) (minuteOfDay % 60)
    timestamp.time.second timestamp.time.nanosecond
  pure ⟨date, time⟩

/-- Read a timestamp without an offset; a `T` separates its parts. -/
def read? (text : String) : Option Timestamp :=
  Text.Scan.readAll (do
    let date ← scanDate
    scanSeparator 'T'
    let time ← scanTime
    Text.Scan.skipBlanks
    pure ⟨date, time⟩) text

end Timestamp

/-- Read two digits. -/
def scanTwoDigits : Text.Scan Nat := do
  let tens ← Text.Scan.satisfy Char.isDigit
  let ones ← Text.Scan.satisfy Char.isDigit
  pure (Text.ofDigits [tens, ones])

/-- Read an offset from UTC in minutes: `Z`, `UTC`, or a signed hour and
minute. -/
def scanOffset : Text.Scan Int := do
  let zulu ← Text.Scan.optional
    (Text.Scan.satisfy fun char => char == 'Z' || char == 'z')
  if zulu.isSome then return 0
  let sign ← Text.Scan.next
  if sign == '+' || sign == '-' || sign == '−' then
    let hours ← scanTwoDigits
    let _ ← Text.Scan.takeWhile fun char => char == ':' || Text.isBlank char
    let minutes ← scanTwoDigits
    if 60 ≤ minutes then failure
    if 24 ≤ hours then failure
    let total : Int := hours * 60 + minutes
    pure (if sign == '+' then total else -total)
  else
    let second ← Text.Scan.next
    let third ← Text.Scan.next
    if [sign, second, third].map Char.toUpper = ['U', 'T', 'C'] then pure 0
    else failure

/-- Read a timestamp with an offset and convert it to UTC.  The date and the
time are separated by a `T` or a space. -/
def Timestamp.readOffset? (text : String) : Option Timestamp := do
  let (timestamp, offset) ← Text.Scan.readAll (do
    let date ← scanDate
    let _ ← Text.Scan.satisfy fun char =>
      char == 'T' || char == 't' || char == ' '
    let time ← scanTime
    Text.Scan.skipBlanks
    let offset ← scanOffset
    Text.Scan.skipBlanks
    pure ((⟨date, time⟩ : Timestamp), offset)) text
  timestamp.minutesEarlier? offset

end SqlWeave.Calendar
