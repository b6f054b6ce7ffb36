import SqlWeave.Text.Blank

/-!
# Reading text from the left

A scan consumes characters from the front of a text and either fails or yields
a value.  The readers of dates, documents and configuration files are built
from the few scans of this module.
-/

namespace SqlWeave.Text

/-- A reader that takes characters from the front of a text. -/
abbrev Scan := StateT (List Char) Option

namespace Scan

/-- The next character, left in place. -/
def peek : Scan (Option Char) := fun input => some (input.head?, input)

/-- Take the next character. -/
def next : Scan Char
  | [] => none
  | char :: rest => some (char, rest)

/-- Take the next character if it satisfies `accept`. -/
def satisfy (accept : Char → Bool) : Scan Char
  | [] => none
  | char :: rest => if accept char then some (char, rest) else none

/-- Take exactly `char`. -/
def exactly (char : Char) : Scan Unit
  | [] => none
  | first :: rest => if first = char then some ((), rest) else none

/-- Take exactly the characters of `word`. -/
def word : List Char → Scan Unit
  | [] => pure ()
  | char :: rest => do exactly char; word rest

/-- Take the longest run of characters that satisfy `accept`. -/
def takeWhile (accept : Char → Bool) : Scan (List Char) := fun input =>
  some (input.takeWhile accept, input.dropWhile accept)

/-- Take the longest run of at most `most` characters that satisfy `accept`. -/
def takeUpTo (most : Nat) (accept : Char → Bool) : Scan (List Char) :=
  fun input =>
    let taken := (input.take most).takeWhile accept
    some (taken, input.drop taken.length)

/-- Skip blank characters. -/
def skipBlanks : Scan Unit := do
  let _ ← takeWhile isBlank

/-- Try `scan`; if it fails, take nothing. -/
def optional {α : Type} (scan : Scan α) : Scan (Option α) := fun input =>
  match scan input with
  | some (value, rest) => some (some value, rest)
  | none => some (none, input)

/-- Try `first`; if it fails, read the same text with `second`. -/
def orElse {α : Type} (first second : Scan α) : Scan α := fun input =>
  match first input with
  | some found => some found
  | none => second input

/-- Succeed only at the end of the text. -/
def finished : Scan Unit
  | [] => some ((), [])
  | _ :: _ => none

/-- Read a whole text. -/
def readAll {α : Type} (scan : Scan α) (text : String) : Option α :=
  match scan text.toList with
  | some (value, []) => some value
  | _ => none

end Scan

/-- The value of a decimal digit, counted from `0`. -/
def digitValue (char : Char) : Nat := char.toNat - '0'.toNat

/-- The number that a run of decimal digits writes. -/
def ofDigits (digits : List Char) : Nat :=
  digits.foldl (fun total char => total * 10 + digitValue char) 0

/-- The value of a hexadecimal digit in either case. -/
def hexValue? (char : Char) : Option Nat :=
  if '0' ≤ char ∧ char ≤ '9' then some (char.toNat - '0'.toNat)
  else if 'a' ≤ char ∧ char ≤ 'f' then some (char.toNat - 'a'.toNat + 10)
  else if 'A' ≤ char ∧ char ≤ 'F' then some (char.toNat - 'A'.toNat + 10)
  else none

/-- The hexadecimal digit of a value below sixteen, in lower case. -/
def hexDigit (value : Nat) : Char :=
  if value < 10 then Char.ofNat ('0'.toNat + value)
  else Char.ofNat ('a'.toNat + (value - 10))

/-- The number in decimal digits, filled with zeros to at least `width`. -/
def padded (width number : Nat) : String :=
  let digits := toString number
  String.ofList (List.replicate (width - digits.length) '0') ++ digits

end SqlWeave.Text
