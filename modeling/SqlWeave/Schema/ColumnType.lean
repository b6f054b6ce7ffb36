/-!
# Column types

The storage types that a column can be declared with, and the names that
standard SQL has for them.
-/

namespace SqlWeave

/-- The declared storage type of a column. -/
inductive ColumnType where
  /-- A key of 32 bits that the database counts up. -/
  | auto
  /-- A key of 64 bits that the database counts up. -/
  | bigAuto
  | bigInt
  | blob
  | bool
  /-- Text of a fixed length. -/
  | char
  | date
  | dateTime
  | decimal
  | double
  | float
  | int
  | smallInt
  | text
  | time
  /-- A UUID stored as text. -/
  | uuid
  /-- A UUID stored as sixteen octets. -/
  | uuidBinary
  /-- Text of a bounded length. -/
  | varChar
  deriving DecidableEq, Repr

/-- The name of a column type in standard SQL. -/
def ColumnType.standardName : ColumnType → String
  | auto | int => "INTEGER"
  | bigAuto | bigInt => "BIGINT"
  | blob | uuidBinary => "BLOB"
  | bool => "BOOLEAN"
  | char => "CHAR"
  | date => "DATE"
  | dateTime => "DATETIME"
  | decimal => "DECIMAL"
  | double | float => "REAL"
  | smallInt => "SMALLINT"
  | text | uuid => "TEXT"
  | time => "TIME"
  | varChar => "VARCHAR"

end SqlWeave
