import SqlWeave.Query.Expr
import SqlWeave.Query.Source

/-!
# Relations between sources

A relation lookup finds the predicate on which two sources are joined.  The
usual lookup goes by the foreign keys that tables declare.
-/

namespace SqlWeave

/-- A way to find the predicate that relates two sources. -/
abbrev RelationLookup := Source → Source → Except QueryError Expr

namespace RelationLookup

/-- The predicate of the first field of `referring` that is a foreign key to
the table of `referred`.  Both of its fields are seen through the sources. -/
def foreignKey? (referring referred : Source) : Option Expr := do
  let table ← referred.table?
  referring.fields.findSome? fun field => do
    let reference ← field.column.references
    if reference.table == table.id then
      let target ← referred.field? reference.label
      some (Expr.equals (.field field) (.field target))
    else none

/-- The lookup that finds nothing. -/
def nothing : RelationLookup := fun left right =>
  .error (.unrelated left.display right.display)

/-- Look for a foreign key of the left source first, then for one of the
right. -/
def declared : RelationLookup := fun left right =>
  match foreignKey? left right with
  | some predicate => .ok predicate
  | none =>
      match foreignKey? right left with
      | some predicate => .ok predicate
      | none => nothing left right

/-- Answer with the first entry for two sources of these names, or else ask
`others`. -/
def listed (entries : List (String × String × Expr)) (others : RelationLookup) :
    RelationLookup := fun left right =>
  match entries.find? fun entry =>
    entry.1 == left.display && entry.2.1 == right.display with
  | some entry => .ok entry.2.2
  | none => others left right

end RelationLookup

end SqlWeave
