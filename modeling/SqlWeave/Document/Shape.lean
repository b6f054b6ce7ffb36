import SqlWeave.Decimal.Layout
import SqlWeave.Document.Basic
import SqlWeave.Text.Escaped

/-!
# Shapes of documents

Decoders turn a document into typed data and say exactly where it has another
shape than expected.  The first mismatch in the order of reading is reported.
-/

namespace SqlWeave

/-- What a decoder expects. -/
inductive Expectation where
  | boolean
  | string
  | map
  /-- A record with this name and this many fields. -/
  | record (name : String) (fields : Nat)
  deriving DecidableEq, Repr

/-- The wording of an expectation. -/
def Expectation.text : Expectation → String
  | boolean => "a boolean"
  | string => "a string"
  | map => "a map"
  | record name _ => "struct " ++ name

/-- A mismatch between a document and what was expected. -/
inductive ShapeError where
  /-- A document of another kind; `found` shows it. -/
  | wrongKind (found : String) (expected : Expectation)
  /-- A record without one of its fields. -/
  | missingField (name : String)
  /-- A list with fewer items than the record has fields. -/
  | tooShort (length : Nat) (name : String) (fields : Nat)
  /-- A list with more items than the record has fields. -/
  | tooLong (length : Nat)
  deriving DecidableEq, Repr

/-- A grave accent on both sides of a text. -/
def ShapeError.inGraveAccents (text : String) : String :=
  "\x60" ++ text ++ "\x60"

/-- The wording of a mismatch. -/
def ShapeError.message : ShapeError → String
  | wrongKind found expected =>
      "invalid type: " ++ found ++ ", expected " ++ expected.text
  | missingField name => "missing field " ++ inGraveAccents name
  | tooShort length name fields =>
      "invalid length " ++ toString length ++ ", expected struct " ++ name ++
        " with " ++ toString fields ++ " elements"
  | tooLong length =>
      "invalid length " ++ toString length ++
        ", expected fewer elements in array"

/-- How a document is shown where it has the wrong kind. -/
def Document.shown : Document → String
  | null => "null"
  | bool value =>
      "boolean " ++
        ShapeError.inGraveAccents (if value then "true" else "false")
  | int value => "integer " ++ ShapeError.inGraveAccents (toString value)
  | float value =>
      "floating point " ++
        ShapeError.inGraveAccents (Decimal.compactText value)
  | text value => "string " ++ Text.escaped value
  | list _ => "sequence"
  | object _ => "map"

/-- A reader of typed data from documents. -/
abbrev Decoder (α : Type) := Document → Except ShapeError α

namespace Decoder

/-- The mismatch of a document with what was expected. -/
def mismatch {α : Type} (expected : Expectation) (document : Document) :
    Except ShapeError α :=
  .error (.wrongKind document.shown expected)

/-- Read a boolean. -/
def boolean : Decoder Bool
  | .bool value => .ok value
  | document => mismatch .boolean document

/-- Read a text. -/
def string : Decoder String
  | .text value => .ok value
  | document => mismatch .string document

/-- Read a text that may be null. -/
def optionalString : Decoder (Option String)
  | .null => .ok none
  | document => (string document).map some

/-- Read the values of entries in their order. -/
def entries {α : Type} (decoder : Decoder α) :
    List (String × Document) → Except ShapeError (Entries α)
  | [] => .ok []
  | (key, document) :: rest => do
      let value ← decoder document
      let values ← entries decoder rest
      pure ((key, value) :: values)

/-- Read an object whose values are all of one kind. -/
def map {α : Type} (decoder : Decoder α) : Decoder (Entries α)
  | .object pairs => entries decoder pairs
  | document => mismatch .map document

/-- Read a field of a record, if it is given. -/
def field? {α : Type} (decoder : Decoder α) (name : String)
    (pairs : List (String × Document)) : Except ShapeError (Option α) :=
  match Entries.get? name pairs with
  | some document => (decoder document).map some
  | none => .ok none

/-- The value of a field that must be given. -/
def required {α : Type} (name : String) : Option α → Except ShapeError α
  | some value => .ok value
  | none => .error (.missingField name)

end Decoder

end SqlWeave
