import SqlWeave.Path
import SqlWeave.Schema.ColumnType
import SqlWeave.Value.Basic

/-!
# Tables

A table is declared with its columns.  Tables are told apart by their
declaration and not by their name, so two tables may share a name.
-/

namespace SqlWeave

/-- The identity of a table declaration. -/
structure TableId where
  number : Nat
  deriving DecidableEq, Repr, Inhabited

/-- A foreign key: the table it points to and the label of a column there. -/
structure Reference where
  table : TableId
  label : String
  deriving DecidableEq, Repr

/-- A declared column. -/
structure Column where
  /-- The name under which the column is asked for. -/
  label : String
  /-- The name of the column in the database, if it is another one. -/
  columnName : Option String
  type : ColumnType
  primaryKey : Bool
  nullable : Bool
  unique : Bool
  indexed : Bool
  references : Option Reference
  /-- What is done to values that are assigned to the column. -/
  converter : Option (Value → Value)

namespace Column

/-- The name of the column in the database. -/
def name (column : Column) : String :=
  column.columnName.getD column.label

/-- The value that is held when `value` is assigned to the column. -/
def convert (column : Column) (value : Value) : Value :=
  match column.converter with
  | some converter => converter value
  | none => value

end Column

/-- A declared table. -/
structure Table where
  id : TableId
  schema : Option String
  name : String
  columns : List Column

namespace Table

/-- Whether both are the same declaration. -/
def sameAs (left right : Table) : Bool := left.id == right.id

/-- The dotted name of the table as it is declared. -/
def path (table : Table) : Path :=
  match table.schema with
  | some schema => ⟨[schema, table.name]⟩
  | none => ⟨[table.name]⟩

/-- The position of the first column with this label. -/
def indexOf? (table : Table) (label : String) :
    Option (Fin table.columns.length) :=
  table.columns.findFinIdx? fun column => column.label == label

/-- The first column with this label. -/
def column? (table : Table) (label : String) : Option Column :=
  table.columns.find? fun column => column.label == label

/-- The first column that is declared as the primary key. -/
def primaryKey? (table : Table) : Option Column :=
  table.columns.find? fun column => column.primaryKey

end Table

end SqlWeave
