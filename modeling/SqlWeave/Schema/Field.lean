import SqlWeave.Alias.Ref
import SqlWeave.Schema.Table

/-!
# Fields

A field stands for a column of a table in a statement.  It may have been
obtained through an alias, and it may carry the value that a record has for
the column.
-/

namespace SqlWeave

/-- A column of a table as a statement refers to it. -/
structure Field where
  table : Table
  index : Fin table.columns.length
  /-- The alias through which the field was obtained. -/
  binding : Option AliasRef
  value : Option Value

namespace Field

/-- The field of a column, without alias and value. -/
def ofIndex (table : Table) (index : Fin table.columns.length) : Field :=
  ⟨table, index, none, none⟩

/-- The declared column. -/
def column (field : Field) : Column := field.table.columns.get field.index

/-- The name of the column in the database. -/
def name (field : Field) : String := field.column.name

/-- The name under which the column is asked for. -/
def label (field : Field) : String := field.column.label

/-- The same column seen through an alias. -/
def rebind (field : Field) (ref : AliasRef) : Field :=
  { field with binding := some ref }

/-- The field with a value, which the column may convert. -/
def withValue (field : Field) (value : Value) : Field :=
  { field with value := some (field.column.convert value) }

/-- The name of the alias or the table that the field belongs to, for people
to read. -/
def sourceName (field : Field) : String :=
  match field.binding with
  | some ref => ref.display
  | none => field.table.name

/-- The field for people to read. -/
def display (field : Field) : String := field.sourceName ++ "." ++ field.name

/-- Whether two optional values are equal. -/
def sameValue : Option Value → Option Value → Bool
  | none, none => true
  | some left, some right => left == right
  | _, _ => false

/-- Whether both stand for the same column, seen through the same alias, with
equal values. -/
def same (left right : Field) : Bool :=
  left.table.sameAs right.table && left.index.val == right.index.val &&
    left.binding == right.binding && sameValue left.value right.value

end Field

namespace Table

/-- The field of the first column with this label. -/
def field? (table : Table) (label : String) : Option Field :=
  (table.indexOf? label).map (Field.ofIndex table)

/-- The fields of all columns in the order of declaration. -/
def fields (table : Table) : List Field :=
  (List.finRange table.columns.length).map (Field.ofIndex table)

end Table

end SqlWeave
