import SqlWeave.Text.Scan
import SqlWeave.Text.Unprintable

/-!
# Escaped text

A text as it is shown inside a message: in double quotes, with quotes,
backslashes and unprintable characters escaped.
-/

namespace SqlWeave.Text

/-- The hexadecimal digits of a number, in lower case and without zeros in
front. -/
def hexText (number : Nat) : String :=
  String.ofList (Nat.toDigits 16 number)

/-- A character as it is shown inside quotes. -/
def escapedChar (char : Char) : String :=
  match char with
  | '\x00' => "\\0"
  | '\t' => "\\t"
  | '\x0d' => "\\r"
  | '\n' => "\\n"
  | '\\' => "\\\\"
  | '"' => "\\\""
  | _ =>
      if isUnprintable char then "\\u\x7b" ++ hexText char.toNat ++ "\x7d"
      else String.singleton char

/-- A text in double quotes with escapes. -/
def escaped (text : String) : String :=
  "\"" ++ String.join (text.toList.map escapedChar) ++ "\""

end SqlWeave.Text
