import SqlWeave.Decimal.Binary64
import SqlWeave.Document.Basic
import SqlWeave.Value.Basic

/-!
# Values as documents

A value travels as an object with its kind under `type` and its content under
`value`.  Two other forms are read as well: a list of the kind and the content,
and an object whose `type` is itself an object, with the kind as its only key and
null under it.

Dates, times and identifiers travel as texts.  How those are written and read is
a parameter, `Value.Codecs`; `Value.Codecs.standard` has the texts that are shown
to people.
-/

namespace SqlWeave

/-- A way to write items of a type as texts and to read them. -/
structure TextCodec (α : Type) where
  write : α → String
  read? : String → Option α

/-- The text of the item is read as this item. -/
def TextCodec.Decodes {α : Type} (codec : TextCodec α) (item : α) : Prop :=
  codec.read? (codec.write item) = some item

namespace Value

/-- The texts of dates, times and identifiers. -/
structure Codecs where
  date : TextCodec Calendar.Date
  dateTime : TextCodec Calendar.Timestamp
  instant : TextCodec Calendar.Timestamp
  time : TextCodec Calendar.Time
  uuid : TextCodec Uuid

/-- A `T` stands between a date and a time, and a `Z` behind a point in time. -/
def Codecs.standard : Codecs where
  date := ⟨Calendar.Date.text, Calendar.Date.read?⟩
  dateTime :=
    ⟨fun timestamp => timestamp.text "T", Calendar.Timestamp.read?⟩
  instant :=
    ⟨fun timestamp => timestamp.text "T" ++ "Z",
      Calendar.Timestamp.readOffset?⟩
  time := ⟨Calendar.Time.text, Calendar.Time.read?⟩
  uuid := ⟨Uuid.text, Uuid.read?⟩

/-- The kind of a value and its content. -/
def tagged (kind : String) (content : Document) : Document :=
  .object [("type", .text kind), ("value", content)]

/-- The content of a double.  One that is no number has none. -/
def floatContent (value : Float) : Document :=
  if value.isFinite then .float value else .null

variable (codecs : Codecs)

mutual

/-- The document of a value. -/
def toDocument : Value → Document
  | null => .object [("type", .text "Null")]
  | bool value => tagged "Bool" (.bool value)
  | int value => tagged "Int" (.int value.toInt)
  | float value => tagged "Float" (floatContent value)
  | text value => tagged "String" (.text value)
  | bytes octets =>
      tagged "Bytes" (.list (octets.map fun octet => .int octet.toNat))
  | date day => tagged "Date" (.text (codecs.date.write day))
  | dateTime timestamp =>
      tagged "DateTime" (.text (codecs.dateTime.write timestamp))
  | instant timestamp =>
      tagged "DateTimeTz" (.text (codecs.instant.write timestamp))
  | time clock => tagged "Time" (.text (codecs.time.write clock))
  | uuid key => tagged "Uuid" (.text (codecs.uuid.write key))
  | list items => tagged "List" (.list (toDocuments items))

/-- The documents of several values. -/
def toDocuments : List Value → List Document
  | [] => []
  | item :: rest => toDocument item :: toDocuments rest

end

/-- Read an octet. -/
def octetOf? : Document → Option UInt8
  | .int number =>
      if 0 ≤ number ∧ number < 256 then some number.toNat.toUInt8 else none
  | _ => none

/-- Read a double; a whole number is rounded to one. -/
def floatOf? : Document → Option Float
  | .int number => some (Decimal.Binary64.ofInt number)
  | .float value => some value
  | _ => none

/-- Read a number of 64 bits with sign. -/
def intOf? : Document → Option Int64
  | .int number =>
      if Int64.minValue.toInt ≤ number ∧ number ≤ Int64.maxValue.toInt then
        some (Int64.ofInt number)
      else none
  | _ => none

/-- Read a value that is no list from its kind and its content. -/
def scalarOf? (kind : String) (content : Document) : Option Value :=
  match kind, content with
  | "Null", .null => some null
  | "Bool", .bool value => some (bool value)
  | "Int", content => (intOf? content).map int
  | "Float", content => (floatOf? content).map float
  | "String", .text value => some (text value)
  | "Bytes", .list items => (items.mapM octetOf?).map bytes
  | "Date", .text written => (codecs.date.read? written).map date
  | "DateTime", .text written => (codecs.dateTime.read? written).map dateTime
  | "DateTimeTz", .text written => (codecs.instant.read? written).map instant
  | "Time", .text written => (codecs.time.read? written).map time
  | "Uuid", .text written => (codecs.uuid.read? written).map uuid
  | _, _ => none

/-- The kind that stands under `type`. -/
def kindOf? : Document → Option String
  | .text kind => some kind
  | .object [(kind, .null)] => some kind
  | _ => none

mutual

/-- Read a value. -/
def ofDocument? : Document → Option Value
  | .object entries => do
      let kind ← kindOf? (← Entries.get? "type" entries)
      ofEntries? kind entries
  | .list [.text kind, content] => ofContent? kind content
  | _ => none

/-- Read a value of the given kind from the entries of its object.  Only null
needs no content. -/
def ofEntries? (kind : String) : List (String × Document) → Option Value
  | [] => if kind = "Null" then some null else none
  | (key, content) :: rest =>
      if key = "value" then ofContent? kind content else ofEntries? kind rest

/-- Read a value of the given kind from its content. -/
def ofContent? (kind : String) : Document → Option Value
  | .list items =>
      if kind = "List" then (ofDocuments? items).map list
      else scalarOf? codecs kind (.list items)
  | content => scalarOf? codecs kind content

/-- Read several values. -/
def ofDocuments? : List Document → Option (List Value)
  | [] => some []
  | item :: rest => do
      let value ← ofDocument? item
      let values ← ofDocuments? rest
      pure (value :: values)

end

end Value

end SqlWeave
