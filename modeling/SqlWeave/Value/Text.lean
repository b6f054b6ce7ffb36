import SqlWeave.Decimal.Layout
import SqlWeave.Value.Basic

/-!
# Values as text

Two texts of a value: one for people to read, and one that stands in for a
parameter when a statement is shown with its values inlined.  The second does
not escape anything and must never be sent to a database.
-/

namespace SqlWeave.Value

mutual

/-- The text of a value for people to read. -/
def display : Value → String
  | null => "NULL"
  | bool value => if value then "true" else "false"
  | int value => toString value.toInt
  | float value => Decimal.text value
  | text value => value
  | bytes octets => "<" ++ toString octets.length ++ " bytes>"
  | date day => day.text
  | dateTime timestamp => timestamp.text " "
  | instant timestamp => timestamp.text " " ++ " UTC"
  | time clock => clock.text
  | uuid key => key.text
  | list items => "[" ++ ", ".intercalate (displayItems items) ++ "]"

/-- The texts of several values for people to read. -/
def displayItems : List Value → List String
  | [] => []
  | item :: rest => display item :: displayItems rest

end

/-- Two hexadecimal digits in upper case. -/
def octetText (octet : UInt8) : String :=
  String.ofList
    ([octet.toNat / 16, octet.toNat % 16].map fun digit =>
      (Text.hexDigit digit).toUpper)

/-- A text in single quotes, with nothing escaped. -/
def inQuotes (text : String) : String := "'" ++ text ++ "'"

mutual

/-- The text that stands in for a value in a statement shown to people. -/
def literal : Value → String
  | null => "NULL"
  | bool value => if value then "1" else "0"
  | int value => toString value.toInt
  | float value => Decimal.text value
  | text value => inQuotes value
  | bytes octets => "X" ++ inQuotes (String.join (octets.map octetText))
  | date day => inQuotes day.text
  | dateTime timestamp => inQuotes (timestamp.text " ")
  | instant timestamp => inQuotes (timestamp.text " " ++ " UTC")
  | time clock => inQuotes clock.text
  | uuid key => inQuotes key.text
  | list items => "(" ++ ", ".intercalate (literalItems items) ++ ")"

/-- The stand-in texts of several values. -/
def literalItems : List Value → List String
  | [] => []
  | item :: rest => literal item :: literalItems rest

end

end SqlWeave.Value
