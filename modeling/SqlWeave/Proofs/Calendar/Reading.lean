import Mathlib.Tactic.SplitIfs
import SqlWeave.Calendar.Timestamp
import SqlWeave.Proofs.Text.Scanning

/-!
# Dates and times are read as they were written

The readers are lenient: blanks may stand between the parts of a date, and
digits may be missing or many.  Of what is written they take every character
and no other, so a date comes back whole (`Date.read?_text`), and a time and a
timestamp do but for one thing: a leap second inside a minute comes back as the
second that it is written as (`Time.read?_text`, `Timestamp.read?_text`).
-/

namespace SqlWeave.Calendar

open Text (Numeral padded)
open Text.Scan (Takes TakesBefore TakesToEnd)

/-! ## Numbers -/

theorem takes_scanNumber {chars : List Char} {number : Nat}
    (numeral : Numeral chars number) :
    Takes (scanNumber chars.length) chars number := by
  obtain ⟨char, rest, rfl, solid, _⟩ := numeral.exists_front
  rw [scanNumber]
  refine .bind_skipBlanks solid
    ((Text.Scan.takes_takeUpTo numeral.digit).last ?_)
  rw [← numeral.value]
  exact .pure _

/-- A number that fits into the width is taken in all its digits. -/
theorem takes_scanNumber_padded {width number : Nat} (some : 0 < width)
    (fits : number < 10 ^ width) :
    Takes (scanNumber width) (padded width number).toList number := by
  have taken := takes_scanNumber (Text.numeral_padded width number)
  rwa [Text.length_padded some fits] at taken

theorem takes_scanSeparator (char : Char)
    (solid : Text.isBlank char = false) :
    Takes (scanSeparator char) [char] () :=
  .bind_skipBlanks solid (Text.Scan.takes_exactly char)

/-! ## Dates -/

/-- Behind a sign all digits are taken. -/
theorem takesBefore_signed (sign : Char) {chars : List Char} {number : Nat}
    (numeral : Numeral chars number) (change : Nat → Int) :
    TakesBefore Char.isDigit (do
        Text.Scan.exactly sign
        let digits ← Text.Scan.takeWhile Char.isDigit
        if digits.isEmpty then failure
        pure (change (Text.ofDigits digits)))
      (sign :: chars) (change number) := by
  refine .bind_exactly
    ((Text.Scan.takesBefore_takeWhile numeral.digit).last (Takes.before ?_ _))
  rw [numeral.value]
  exact (Takes.pure (change number)).guarded (by simpa using numeral.some)

theorem takesBefore_scanYear (year : Int) :
    TakesBefore Char.isDigit scanYear (Date.yearText year).toList year := by
  have numeral (number : Nat) : Numeral (padded 4 number).toList number :=
    Text.numeral_padded 4 number
  rw [scanYear, Date.yearText]
  split_ifs with plain negative
  · have taken : Takes (scanNumber 4) (padded 4 year.toNat).toList year.toNat :=
      takes_scanNumber_padded (by decide) (by omega)
    have whole : (year.toNat : Int) = year := Int.toNat_of_nonneg plain.1
    obtain ⟨char, rest, text, solid, minus, plus⟩ :=
      (numeral year.toNat).exists_front
    rw [text] at taken ⊢
    refine .bind_skipBlanks solid (.bind_peek ?_)
    split
    · next sign => exact absurd (Option.some.inj sign) minus
    · next sign => exact absurd (Option.some.inj sign) plus
    · have read := taken.map fun digits : Nat => (digits : Int)
      rw [whole] at read
      exact read.before _
  · have signed : -(year.natAbs : Int) = year := by omega
    have taken := takesBefore_signed '-' (numeral year.natAbs)
      fun digits => -(digits : Int)
    rw [signed] at taken
    rw [String.toList_append]
    exact .bind_skipBlanks rfl (.bind_peek taken)
  · have signed : (year.natAbs : Int) = year := by omega
    have taken := takesBefore_signed '+' (numeral year.natAbs)
      fun digits => (digits : Int)
    rw [signed] at taken
    rw [String.toList_append]
    exact .bind_skipBlanks rfl (.bind_peek taken)

/-- No month and no day needs more than two digits. -/
theorem Date.bounds (date : Date) : date.month < 10 ^ 2 ∧ date.day < 10 ^ 2 := by
  have valid := date.valid
  simp only [isDate, Bool.and_eq_true, decide_eq_true_eq] at valid
  have longest : daysInMonth date.year date.month ≤ 31 := by
    rw [daysInMonth]
    split_ifs <;> decide
  omega

@[simp] theorem Date.of?_self (date : Date) :
    of? date.year date.month date.day = some date :=
  dif_pos date.valid

theorem takes_scanDate (date : Date) :
    Takes scanDate date.text.toList date := by
  have text : date.text.toList = (Date.yearText date.year).toList ++
      '-' :: ((padded 2 date.month).toList ++
        ('-' :: (padded 2 date.day).toList)) := by
    simp [Date.text]
  rw [text, scanDate]
  apply (takesBefore_scanYear date.year).bind rfl
  apply (takes_scanSeparator '-' rfl).bind_cons
  apply (takes_scanNumber_padded (by decide) date.bounds.1).bind
  apply (takes_scanSeparator '-' rfl).bind_cons
  apply (takes_scanNumber_padded (by decide) date.bounds.2).last
  rw [Date.of?_self]
  exact .pure date

/-- A written date is read back. -/
theorem Date.read?_text (date : Date) : read? date.text = some date := by
  have taken : TakesToEnd scanDate date.text.toList date :=
    (takes_scanDate date).before _
  apply Text.Scan.readAll_of_takesToEnd
  exact taken.last (Text.Scan.takesToEnd_skipBlanks date)

/-! ## Times of day -/

/-- The characters that a fraction of a second goes on with. -/
def inFraction (char : Char) : Bool := char == '.' || char.isDigit

/-- Up to nine digits behind a point are taken, and none is dropped. -/
theorem takesBefore_point (width number : Nat) (some : 0 < width)
    (fits : number < 10 ^ width) (few : width ≤ 9) :
    TakesBefore inFraction scanFraction ('.' :: (padded width number).toList)
      (number * 10 ^ (9 - width)) := by
  have numeral := Text.numeral_padded width number
  have length := Text.length_padded some fits
  have run : TakesBefore inFraction (Text.Scan.takeWhile Char.isDigit)
      (padded width number).toList (padded width number).toList :=
    (Text.Scan.takesBefore_takeWhile numeral.digit).mono
      fun char digit => by simp [inFraction, digit]
  have kept : (padded width number).toList.take 9 =
      (padded width number).toList :=
    List.take_of_length_le (by omega)
  rw [scanFraction]
  refine .bind_peek (.bind_exactly (run.last (Takes.before ?_ _)))
  dsimp only
  rw [kept, numeral.value, length]
  exact (Takes.pure _).guarded (by simpa using numeral.some)

theorem takesBefore_scanFraction {nanosecond : Nat}
    (small : nanosecond < 10 ^ 9) :
    TakesBefore inFraction scanFraction
      (Time.fractionText nanosecond).toList nanosecond := by
  rw [Time.fractionText]
  split_ifs with whole milli micro
  · -- A time without a fraction must not be followed by one.
    subst whole
    rw [scanFraction]
    refine .peeked fun found ends => ?_
    split
    · exact absurd (ends '.' rfl) (by decide)
    · exact .pure 0
  · have digits := takesBefore_point 3 (nanosecond / 1000000) (by decide)
      (by omega) (by decide)
    have restored : nanosecond / 1000000 * 10 ^ (9 - 3) = nanosecond := by omega
    rw [restored] at digits
    simpa using digits
  · have digits := takesBefore_point 6 (nanosecond / 1000) (by decide)
      (by omega) (by decide)
    have restored : nanosecond / 1000 * 10 ^ (9 - 6) = nanosecond := by omega
    rw [restored] at digits
    simpa using digits
  · have digits := takesBefore_point 9 nanosecond (by decide) small (by decide)
    simpa using digits

namespace Time

/-- A leap second of the time stands behind the last second of a minute. -/
def Regular (time : Time) : Prop :=
  time.nanosecond < wholeSecond ∨ time.second = 59

instance (time : Time) : Decidable time.Regular :=
  inferInstanceAs (Decidable (_ ∨ _))

theorem bounds (time : Time) :
    time.hour < 24 ∧ time.minute < 60 ∧ time.second < 60 ∧
      time.nanosecond < 2 * wholeSecond := by
  have valid := time.valid
  simp only [isTime, Bool.and_eq_true, decide_eq_true_eq] at valid
  omega

@[simp] theorem of?_self (time : Time) :
    of? time.hour time.minute time.second time.nanosecond = some time :=
  dif_pos time.valid

theorem writtenSecond_le (time : Time) : time.writtenSecond ≤ 60 := by
  have bounds := time.bounds
  rw [writtenSecond]
  split <;> omega

theorem fraction_lt (time : Time) : time.fraction < 10 ^ 9 :=
  Nat.mod_lt _ (by decide)

/-- The time that its text is read as: a leap second inside a minute is taken for
the second that follows. -/
def settled (time : Time) : Time :=
  if regular : time.Regular then time
  else
    { time with
      second := time.second + 1
      nanosecond := time.nanosecond - wholeSecond
      valid := by
        have bounds := time.bounds
        simp only [Regular, not_or] at regular
        simp only [isTime, Bool.and_eq_true, decide_eq_true_eq]
        omega }

theorem settled_of_regular {time : Time} (regular : time.Regular) :
    time.settled = time :=
  dif_pos regular

/-- Only the leap seconds inside a minute are taken for others. -/
theorem settled_eq_self_iff {time : Time} :
    time.settled = time ↔ time.Regular := by
  refine ⟨fun same => ?_, settled_of_regular⟩
  by_contra irregular
  rw [settled, dif_neg irregular] at same
  have second := congrArg Time.second same
  exact absurd second (Nat.succ_ne_self _)

theorem ofWritten?_self (time : Time) :
    ofWritten? time.hour time.minute time.writtenSecond time.fraction =
      some time.settled := by
  have bounds := time.bounds
  rw [ofWritten?, writtenSecond, fraction]
  by_cases ordinary : time.nanosecond < wholeSecond
  · rw [if_pos ordinary, if_neg (by omega), Nat.mod_eq_of_lt ordinary,
      of?_self, settled_of_regular (.inl ordinary)]
  · have rest : time.nanosecond % wholeSecond =
        time.nanosecond - wholeSecond := by
      rw [Nat.mod_eq_sub_mod (by omega), Nat.mod_eq_of_lt (by omega)]
    rw [if_neg ordinary, rest]
    by_cases last : time.second = 59
    · have whole : wholeSecond + (time.nanosecond - wholeSecond) =
          time.nanosecond := by omega
      rw [if_pos (by omega), whole, ← last, of?_self,
        settled_of_regular (.inr last)]
    · have irregular : ¬ time.Regular := not_or.mpr ⟨ordinary, last⟩
      rw [if_neg (by omega), settled, dif_neg irregular]
      exact dif_pos _

end Time

/-- The characters of a time: two numbers and the rest behind their colon. -/
theorem Time.toList_text (time : Time) :
    time.text.toList =
      (padded 2 time.hour).toList ++ ':' :: (padded 2 time.minute).toList ++
        ':' :: ((padded 2 time.writtenSecond).toList ++
          (fractionText time.fraction).toList) := by
  simp [text]

theorem takes_scanHourMinute {hour minute : Nat} (hours : hour < 10 ^ 2)
    (minutes : minute < 10 ^ 2) :
    Takes scanHourMinute
      ((padded 2 hour).toList ++ ':' :: (padded 2 minute).toList)
      (hour, minute) := by
  rw [scanHourMinute]
  apply (takes_scanNumber_padded (by decide) hours).bind
  apply (takes_scanSeparator ':' rfl).bind_cons
  exact (takes_scanNumber_padded (by decide) minutes).map _

/-- Second 60 is taken as any other. -/
theorem takesBefore_scanSecond {second fraction : Nat}
    (seconds : second ≤ 60) (small : fraction < 10 ^ 9) :
    TakesBefore inFraction scanSecond
      (':' :: ((padded 2 second).toList ++
        (Time.fractionText fraction).toList))
      (second, fraction) := by
  rw [scanSecond]
  apply (takes_scanSeparator ':' rfl).bind_cons_before
  apply (takes_scanNumber_padded (by decide) (by omega)).bind_before
  dsimp only
  rw [if_neg (by omega)]
  exact (takesBefore_scanFraction small).map _

theorem takesBefore_scanTime (time : Time) :
    TakesBefore inFraction scanTime time.text.toList time.settled := by
  obtain ⟨hours, minutes, _⟩ := time.bounds
  have second := takesBefore_scanSecond time.writtenSecond_le time.fraction_lt
  rw [scanTime, Time.toList_text]
  apply (takes_scanHourMinute (by omega) (by omega)).bind_before
  apply second.last
  apply Takes.before
  dsimp only
  rw [Time.ofWritten?_self]
  exact .pure time.settled

/-- A written time is read back, but for a leap second inside a minute. -/
theorem Time.read?_text (time : Time) : read? time.text = some time.settled := by
  obtain ⟨hours, minutes, _⟩ := time.bounds
  have second := takesBefore_scanSecond time.writtenSecond_le time.fraction_lt
  rw [read?]
  refine Option.bind_eq_some_iff.mpr
    ⟨(time.hour, time.minute, time.writtenSecond, time.fraction), ?_,
      time.ofWritten?_self⟩
  apply Text.Scan.readAll_of_takesToEnd
  rw [Time.toList_text]
  apply (takes_scanHourMinute (by omega) (by omega)).bind_before
  apply second.optional.toEnd.last
  exact Text.Scan.takesToEnd_skipBlanks _

/-! ## Timestamps -/

/-- A timestamp is written as its parts with the separator between them. -/
theorem Timestamp.toList_text (timestamp : Timestamp) (separator : String) :
    (timestamp.text separator).toList =
      timestamp.date.text.toList ++
        (separator.toList ++ timestamp.time.text.toList) := by
  simp [text]

/-- The timestamp that its text is read as. -/
def Timestamp.settled (timestamp : Timestamp) : Timestamp :=
  ⟨timestamp.date, timestamp.time.settled⟩

theorem Timestamp.settled_eq_self_iff {timestamp : Timestamp} :
    timestamp.settled = timestamp ↔ timestamp.time.Regular := by
  obtain ⟨date, time⟩ := timestamp
  simp [settled, Time.settled_eq_self_iff]

/-- A written timestamp is read back, but for a leap second inside a minute. -/
theorem Timestamp.read?_text (timestamp : Timestamp) :
    read? (timestamp.text "T") = some timestamp.settled := by
  apply Text.Scan.readAll_of_takesToEnd
  rw [Timestamp.toList_text]
  apply (takes_scanDate timestamp.date).bind_before
  apply (takes_scanSeparator 'T' rfl).bind_cons_before
  apply (takesBefore_scanTime timestamp.time).toEnd.last
  exact Text.Scan.takesToEnd_skipBlanks timestamp.settled

/-- Without an offset nothing changes. -/
theorem Timestamp.minutesEarlier?_zero (timestamp : Timestamp) :
    timestamp.minutesEarlier? 0 = some timestamp := by
  obtain ⟨hours, minutes, _⟩ := timestamp.time.bounds
  have day : ((timestamp.time.hour * 60 + timestamp.time.minute : Int) -
      0).fdiv 1440 = 0 := by
    rw [Int.fdiv_eq_ediv_of_nonneg _ (by decide)]
    omega
  have minuteOfDay : (((timestamp.time.hour * 60 + timestamp.time.minute : Int) -
      0).fmod 1440).toNat = timestamp.time.hour * 60 + timestamp.time.minute := by
    rw [Int.fmod_eq_emod_of_nonneg _ (by decide)]
    omega
  have hour : (timestamp.time.hour * 60 + timestamp.time.minute) / 60 =
      timestamp.time.hour := by
    omega
  have minute : (timestamp.time.hour * 60 + timestamp.time.minute) % 60 =
      timestamp.time.minute := by
    omega
  rw [minutesEarlier?, day, minuteOfDay, hour, minute, Time.of?_self]
  rfl

theorem takes_zulu : Takes scanOffset ['Z'] 0 :=
  fun _ => rfl

/-- A timestamp that is written in UTC is read back, but for a leap second inside
a minute. -/
theorem Timestamp.readOffset?_text (timestamp : Timestamp) :
    readOffset? (timestamp.text "T" ++ "Z") = some timestamp.settled := by
  have utc : (timestamp.text "T" ++ "Z").toList =
      timestamp.date.text.toList ++
        'T' :: (timestamp.time.text.toList ++ ['Z']) := by
    simp [text]
  rw [readOffset?]
  refine Option.bind_eq_some_iff.mpr
    ⟨(timestamp.settled, 0), ?_, timestamp.settled.minutesEarlier?_zero⟩
  apply Text.Scan.readAll_of_takesToEnd
  rw [utc]
  apply (takes_scanDate timestamp.date).bind_before
  apply (Text.Scan.takes_satisfy rfl).bind_cons_before
  apply (takesBefore_scanTime timestamp.time).bind_before rfl
  apply TakesBefore.bind_skipBlanks rfl
  apply takes_zulu.bind_cons_before
  exact Text.Scan.takesToEnd_skipBlanks _

end SqlWeave.Calendar
