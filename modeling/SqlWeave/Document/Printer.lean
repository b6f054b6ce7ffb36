import SqlWeave.Decimal.Layout
import SqlWeave.Document.Basic
import SqlWeave.Text.Scan

/-!
# Writing JSON

Documents are written as compact JSON, in a form of this library: of the characters
of a string, quotes and backslashes are escaped by a backslash and all control
characters by their number, and the entries of an object stand in the order of
their keys.  Other writers of JSON give the common control characters short
escapes, or write the fields of a record in the order of their declaration, so
what they save reads as the same document but need not be the same text.  Doubles
that are no numbers are written as `null`.
-/

namespace SqlWeave.Document

/-- The characters that write one character of a string. -/
def escapeChar (char : Char) : List Char :=
  if char = '"' then ['\\', '"']
  else if char = '\\' then ['\\', '\\']
  else if char.toNat < 0x20 then
    ['\\', 'u', '0', '0', Text.hexDigit (char.toNat / 16),
      Text.hexDigit (char.toNat % 16)]
  else [char]

/-- A string in quotes. -/
def quoted (value : String) : String :=
  "\"" ++ String.ofList (value.toList.flatMap escapeChar) ++ "\""

mutual

/-- The JSON text of a document, as this library writes it. -/
def render : Document → String
  | null => "null"
  | bool value => if value then "true" else "false"
  | int value => toString value
  | float value =>
      if value.isFinite then Decimal.compactText value else "null"
  | text value => quoted value
  | list items => "[" ++ ",".intercalate (renderItems items) ++ "]"
  | object entries =>
      "\x7b" ++ ",".intercalate (renderEntries entries) ++ "\x7d"

/-- The JSON texts of the items of a list. -/
def renderItems : List Document → List String
  | [] => []
  | item :: rest => item.render :: renderItems rest

/-- The JSON texts of the entries of an object. -/
def renderEntries : List (String × Document) → List String
  | [] => []
  | (key, value) :: rest =>
      (quoted key ++ ":" ++ value.render) :: renderEntries rest

end

end SqlWeave.Document
