import Mathlib.Algebra.Group.Nat.Defs
import Mathlib.Data.List.TakeWhile
import SqlWeave.Text.Scan

/-!
# Scans of written text

A scan takes a text if it yields the same value whatever follows
(`Text.Scan.Takes`).  The scan of a longest run takes it only before something
that does not continue the run (`Text.Scan.TakesBefore`).  A number in decimal
digits is read as what it writes (`Text.Numeral`).
-/

namespace SqlWeave

namespace Text

/-- The digit of a value reads as that value. -/
theorem hexValue?_hexDigit {value : Nat} (small : value < 16) :
    hexValue? (hexDigit value) = some value := by
  have each : ∀ digit : Fin 16,
      hexValue? (hexDigit digit) = some digit.val := by
    decide
  exact each ⟨value, small⟩

namespace Scan

variable {α β : Type}

theorem pure_apply (value : α) (input : List Char) :
    (pure value : Scan α) input = some (value, input) :=
  rfl

theorem bind_apply (scan : Scan α) (next : α → Scan β) (input : List Char) :
    (scan >>= next) input =
      (scan input).bind fun found => next found.1 found.2 :=
  rfl

/-- The scan takes the text and yields the value, whatever follows. -/
def Takes (scan : Scan α) (text : List Char) (value : α) : Prop :=
  ∀ rest, scan (text ++ rest) = some (value, rest)

theorem takes_exactly (char : Char) : Takes (exactly char) [char] () := by
  intro rest
  exact if_pos rfl

theorem takes_satisfy {accept : Char → Bool} {char : Char}
    (accepted : accept char = true) : Takes (satisfy accept) [char] char := by
  intro rest
  simp [satisfy, accepted]

namespace Takes

variable {first : Scan α} {value : α} {next : α → Scan β} {result : β}
  {text front back : List Char} {char : Char}

theorem pure (value : α) : Takes (Pure.pure value : Scan α) [] value :=
  fun _ => rfl

theorem bind (taken : Takes first front value)
    (goes : Takes (next value) back result) :
    Takes (first >>= next) (front ++ back) result := by
  intro rest
  rw [bind_apply, List.append_assoc, taken]
  exact goes rest

/-- Nothing else is taken if what follows takes nothing. -/
theorem last (taken : Takes first text value)
    (goes : Takes (next value) [] result) :
    Takes (first >>= next) text result := by
  rw [← List.append_nil text]
  exact taken.bind goes

/-- Nothing else is taken if only the value is changed. -/
theorem map (taken : Takes first text value) (change : α → β) :
    Takes (first >>= fun found => Pure.pure (change found)) text
      (change value) :=
  taken.last (.pure (change value))

theorem bind_next {next : Char → Scan β}
    (goes : Takes (next char) back result) :
    Takes (Scan.next >>= next) (char :: back) result :=
  goes

theorem bind_peek {next : Option Char → Scan β}
    (goes : Takes (next (some char)) (char :: back) result) :
    Takes (peek >>= next) (char :: back) result :=
  goes

/-- A single character is taken in front. -/
theorem bind_cons (taken : Takes first [char] value)
    (goes : Takes (next value) back result) :
    Takes (first >>= next) (char :: back) result :=
  taken.bind goes

theorem bind_exactly {next : Unit → Scan β}
    (goes : Takes (next ()) back result) :
    Takes (exactly char >>= next) (char :: back) result :=
  (takes_exactly char).bind goes

/-- A scan that gives up under a condition goes on without it. -/
theorem guarded {condition : Prop} [Decidable condition] {next : Unit → Scan β}
    (passes : ¬ condition) (goes : Takes (next ()) text result) :
    Takes (if condition then Alternative.failure >>= next else next ())
      text result := by
  rwa [if_neg passes]

end Takes

theorem takes_word (chars : List Char) : Takes (word chars) chars () := by
  induction chars with
  | nil => exact .pure ()
  | cons char rest ih => exact .bind_exactly ih

/-- The scan takes the text and yields the value, unless a character follows
that satisfies `accept`. -/
def TakesBefore (accept : Char → Bool) (scan : Scan α) (text : List Char)
    (value : α) : Prop :=
  ∀ rest, (∀ char ∈ rest.head?, accept char = false) →
    scan (text ++ rest) = some (value, rest)

namespace Takes

variable {accept : Char → Bool} {first : Scan α} {value : α}
  {next : α → Scan β} {result : β} {text front back : List Char} {char : Char}

theorem before (taken : Takes first text value) (accept : Char → Bool) :
    TakesBefore accept first text value :=
  fun rest _ => taken rest

theorem bind_before (taken : Takes first front value)
    (goes : TakesBefore accept (next value) back result) :
    TakesBefore accept (first >>= next) (front ++ back) result := by
  intro rest ends
  rw [bind_apply, List.append_assoc, taken]
  exact goes rest ends

/-- A single character is taken in front. -/
theorem bind_cons_before (taken : Takes first [char] value)
    (goes : TakesBefore accept (next value) back result) :
    TakesBefore accept (first >>= next) (char :: back) result :=
  taken.bind_before goes

end Takes

namespace TakesBefore

variable {accept : Char → Bool} {first : Scan α} {value : α}
  {next : α → Scan β} {result : β} {text front back : List Char} {char : Char}

/-- If nothing is refused, anything may follow. -/
theorem takes (taken : TakesBefore (fun _ => false) first text value) :
    Takes first text value :=
  fun rest => taken rest fun _ _ => rfl

/-- What goes on with a character that is refused is read as well. -/
theorem bind_before {wide : Char → Bool}
    (taken : TakesBefore accept first front value)
    (stops : accept char = false)
    (goes : TakesBefore wide (next value) (char :: back) result) :
    TakesBefore wide (first >>= next) (front ++ char :: back) result := by
  intro rest ends
  rw [bind_apply, List.append_assoc, taken _ (by simpa using stops)]
  exact goes rest ends

theorem bind (taken : TakesBefore accept first front value)
    (stops : accept char = false)
    (goes : Takes (next value) (char :: back) result) :
    Takes (first >>= next) (front ++ char :: back) result :=
  (taken.bind_before stops (goes.before _)).takes

/-- More characters may be refused. -/
theorem mono {narrow : Char → Bool}
    (taken : TakesBefore narrow first text value)
    (wider : ∀ char, narrow char = true → accept char = true) :
    TakesBefore accept first text value := by
  intro rest ends
  apply taken
  intro char follows
  have refused := ends char follows
  by_contra narrowed
  simp [wider char (by simpa using narrowed)] at refused

theorem bind_peek {next : Option Char → Scan β}
    (goes : TakesBefore accept (next (some char)) (char :: back) result) :
    TakesBefore accept (peek >>= next) (char :: back) result :=
  goes

/-- Nothing is taken, whichever character follows that is not refused. -/
theorem peeked {next : Option Char → Scan β}
    (goes : ∀ found : Option Char, (∀ char ∈ found, accept char = false) →
      Takes (next found) [] result) :
    TakesBefore accept (peek >>= next) [] result :=
  fun rest ends => goes rest.head? ends rest

theorem bind_exactly {next : Unit → Scan β}
    (goes : TakesBefore accept (next ()) back result) :
    TakesBefore accept (exactly char >>= next) (char :: back) result :=
  (takes_exactly char).bind_before goes

theorem last (taken : TakesBefore accept first text value)
    (goes : TakesBefore accept (next value) [] result) :
    TakesBefore accept (first >>= next) text result := by
  intro rest ends
  rw [bind_apply, taken rest ends]
  exact goes rest ends

theorem map (taken : TakesBefore accept first text value) (change : α → β) :
    TakesBefore accept (first >>= fun found => Pure.pure (change found)) text
      (change value) :=
  taken.last ((Takes.pure (change value)).before accept)

/-- What a scan takes, it takes as an option. -/
theorem optional (taken : TakesBefore accept first text value) :
    TakesBefore accept (Scan.optional first) text (some value) := by
  intro rest ends
  rw [Scan.optional, taken rest ends]

end TakesBefore

theorem takesBefore_takeWhile {accept : Char → Bool} {run : List Char}
    (each : ∀ char ∈ run, accept char = true) :
    TakesBefore accept (takeWhile accept) run run := by
  intro rest ends
  have stops : rest.takeWhile accept = [] ∧ rest.dropWhile accept = rest := by
    cases rest with
    | nil => simp
    | cons char rest => simp [ends char rfl]
  simp [takeWhile, List.takeWhile_append_of_pos each,
    List.dropWhile_append_of_pos each, stops]

theorem takes_takeUpTo {accept : Char → Bool} {run : List Char}
    (each : ∀ char ∈ run, accept char = true) :
    Takes (takeUpTo run.length accept) run run := by
  intro rest
  simp [takeUpTo, List.takeWhile_eq_self_iff.mpr each]

theorem skipBlanks_apply (input : List Char) :
    skipBlanks input = some ((), input.dropWhile isBlank) :=
  rfl

/-- Nothing is skipped in front of a character that is not blank. -/
theorem TakesBefore.bind_skipBlanks {accept : Char → Bool}
    {next : Unit → Scan β} {char : Char} {back : List Char} {result : β}
    (solid : isBlank char = false)
    (goes : TakesBefore accept (next ()) (char :: back) result) :
    TakesBefore accept (skipBlanks >>= next) (char :: back) result := by
  intro rest ends
  rw [← goes rest ends]
  simp [bind_apply, skipBlanks_apply, solid]

theorem Takes.bind_skipBlanks {next : Unit → Scan β} {char : Char}
    {back : List Char} {result : β} (solid : isBlank char = false)
    (goes : Takes (next ()) (char :: back) result) :
    Takes (skipBlanks >>= next) (char :: back) result :=
  (TakesBefore.bind_skipBlanks solid (goes.before _)).takes

theorem takesBefore_skipBlanks : TakesBefore isBlank skipBlanks [] () := by
  have none : TakesBefore isBlank (takeWhile isBlank) [] [] :=
    takesBefore_takeWhile (by simp)
  exact none.map fun _ => ()

/-- The scan takes the text as the last part of a whole. -/
abbrev TakesToEnd (scan : Scan α) (text : List Char) (value : α) : Prop :=
  TakesBefore (fun _ => true) scan text value

theorem TakesBefore.toEnd {accept : Char → Bool} {scan : Scan α}
    {text : List Char} {value : α}
    (taken : TakesBefore accept scan text value) :
    TakesToEnd scan text value :=
  taken.mono fun _ _ => rfl

theorem takesToEnd_skipBlanks (value : α) :
    TakesToEnd (skipBlanks >>= fun _ => pure value) [] value :=
  takesBefore_skipBlanks.toEnd.map fun _ => value

theorem readAll_of_takesToEnd {scan : Scan α} {text : String} {value : α}
    (taken : TakesToEnd scan text.toList value) :
    readAll scan text = some value := by
  have whole := taken [] (by simp)
  rw [List.append_nil] at whole
  rw [readAll, whole]

end Scan

/-! ## Numbers -/

/-- No decimal digit is blank. -/
theorem isBlank_eq_false_of_isDigit {char : Char}
    (digit : char.isDigit = true) : isBlank char = false := by
  have bounds : 48 ≤ char.toNat ∧ char.toNat ≤ 57 :=
    Char.isDigit_iff_toNat.mp digit
  simp [isBlank, blankRanges]
  omega

/-- The characters are decimal digits, at least one, and write the number. -/
structure Numeral (chars : List Char) (number : Nat) : Prop where
  some : chars ≠ []
  digit : ∀ char ∈ chars, char.isDigit = true
  value : ofDigits chars = number

/-- A number starts neither with a blank nor with a sign. -/
theorem Numeral.exists_front {chars : List Char} {number : Nat}
    (numeral : Numeral chars number) :
    ∃ char rest, chars = char :: rest ∧ isBlank char = false ∧
      char ≠ '-' ∧ char ≠ '+' := by
  obtain ⟨char, rest, rfl⟩ := List.exists_cons_of_ne_nil numeral.some
  have digit := numeral.digit char List.mem_cons_self
  refine ⟨char, rest, rfl, isBlank_eq_false_of_isDigit digit, ?_, ?_⟩
  · intro minus
    simp [minus] at digit
  · intro plus
    simp [plus] at digit

theorem ofDigits_eq_ofDigitChars (chars : List Char) :
    ofDigits chars = Nat.ofDigitChars 10 chars 0 := by
  simp [ofDigits, digitValue, Nat.ofDigitChars_eq_foldl, Nat.mul_comm]

theorem toList_padded (width number : Nat) :
    (padded width number).toList =
      List.replicate (width - (Nat.toDigits 10 number).length) '0' ++
        Nat.toDigits 10 number := by
  simp [padded, Nat.toString_eq_ofList_toDigits, -Nat.toString_eq_repr]

theorem numeral_padded (width number : Nat) :
    Numeral (padded width number).toList number where
  some := by simp [toList_padded, Nat.toDigits_ne_nil]
  digit := by
    intro char member
    rw [toList_padded, List.mem_append, List.mem_replicate] at member
    obtain ⟨_, rfl⟩ | written := member
    · rfl
    · exact Nat.isDigit_of_mem_toDigits (by decide) (by decide) written
  value := by
    rw [ofDigits_eq_ofDigitChars, toList_padded, Nat.ofDigitChars_append,
      Nat.ofDigitChars_replicate_zero, Nat.mul_zero,
      Nat.ofDigitChars_ten_toDigits]

/-- A number that fits into the width is written with exactly that many
digits. -/
theorem length_padded {width number : Nat} (some : 0 < width)
    (fits : number < 10 ^ width) :
    (padded width number).toList.length = width := by
  have short := (Nat.length_toDigits_le_iff (by decide) some).mpr fits
  rw [toList_padded, List.length_append, List.length_replicate]
  omega

end Text

end SqlWeave
