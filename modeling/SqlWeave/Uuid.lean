import SqlWeave.Text.Scan

/-!
# Universally unique identifiers

An identifier of 128 bits, held as thirty-two hexadecimal digits.  It is
written in lower case with hyphens, and read plain, hyphenated, in braces or
as a URN, in either case.
-/

namespace SqlWeave

/-- A universally unique identifier. -/
structure Uuid where
  digits : List (Fin 16)
  size : digits.length = 32
  deriving DecidableEq

namespace Uuid

/-- The identifier with these digits, if there are thirty-two. -/
def ofDigits? (digits : List (Fin 16)) : Option Uuid :=
  if size : digits.length = 32 then some ⟨digits, size⟩ else none

/-- The lengths of the groups between the hyphens. -/
def groups : List Nat := [8, 4, 4, 4, 12]

/-- Cut a list into consecutive groups of the given lengths. -/
def cut {α : Type} : List Nat → List α → List (List α)
  | [], _ => []
  | size :: sizes, items => items.take size :: cut sizes (items.drop size)

/-- The hyphenated text in lower case. -/
def text (uuid : Uuid) : String :=
  let chars := uuid.digits.map fun digit => Text.hexDigit digit.val
  "-".intercalate ((cut groups chars).map String.ofList)

/-- The digit that a character writes. -/
def digit? (char : Char) : Option (Fin 16) := do
  let value ← Text.hexValue? char
  if inRange : value < 16 then some ⟨value, inRange⟩ else none

/-- Read thirty-two digits without hyphens. -/
def readPlain? (chars : List Char) : Option Uuid := do
  ofDigits? (← chars.mapM digit?)

/-- Read the groups of digits with a hyphen between them. -/
def readHyphenated? (chars : List Char) : Option Uuid := do
  let parts := cut [8, 1, 4, 1, 4, 1, 4, 1, 12] chars
  match parts with
  | [first, ['-'], second, ['-'], third, ['-'], fourth, ['-'], fifth] =>
      readPlain? (first ++ second ++ third ++ fourth ++ fifth)
  | _ => none

/-- The beginning of an identifier written as a URN. -/
def urn : List Char := "urn:uuid:".toList

/-- Read an identifier in any of its forms. -/
def read? (text : String) : Option Uuid :=
  let chars := text.toList
  if chars.length = 32 then readPlain? chars
  else if chars.length = 36 then readHyphenated? chars
  else if chars.length = 38 then
    if chars.head? = some '\x7b' ∧ chars.getLast? = some '\x7d' then
      readHyphenated? (chars.drop 1).dropLast
    else none
  else if chars.length = 45 ∧ (chars.take 9).map Char.toLower = urn then
    readHyphenated? (chars.drop 9)
  else none

end Uuid

end SqlWeave
