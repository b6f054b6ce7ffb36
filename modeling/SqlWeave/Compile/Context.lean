import SqlWeave.Alias.Names
import SqlWeave.Compile.Script
import SqlWeave.Dialect.Basic
import SqlWeave.Schema.Field

/-!
# Contexts

What the script of a part depends on besides the part itself: the dialect, the
schema of tables that declare none, the names of the aliases of the enclosing
statements, and whether columns are written by their name alone.
-/

namespace SqlWeave

/-- Where a part of a statement stands. -/
structure Context where
  dialect : Dialect
  defaultSchema : Option String
  /-- The names of the enclosing statements, innermost first. -/
  scopes : List AliasNames
  /-- Whether columns are written by their name alone. -/
  bareColumns : Bool

namespace Context

/-- The context of a whole statement. -/
def outermost (dialect : Dialect) (defaultSchema : Option String) : Context :=
  ⟨dialect, defaultSchema, [], false⟩

/-- The context inside a statement with these names. -/
def enter (context : Context) (names : AliasNames) : Context :=
  { context with scopes := names :: context.scopes }

/-- The context in which columns are written by their name alone. -/
def withBareColumns (context : Context) : Context :=
  { context with bareColumns := true }

/-- The name of an alias in the innermost scope that has one. -/
def nameOf (context : Context) (id : AliasId) : Except QueryError String :=
  match context.scopes.findSome? fun names => names.nameOf? id with
  | some name => .ok name
  | none => .error (.unnamedAlias id)

/-- The name of an alias: its own, or the one that a scope gave it. -/
def nameOfRef (context : Context) (ref : AliasRef) :
    Except QueryError String :=
  match ref.name with
  | some name => .ok name
  | none => context.nameOf ref.id

/-- Empty names for an inner statement.  None that an enclosing statement uses
will be generated. -/
def innerNames (context : Context) : AliasNames :=
  .reserving (context.scopes.flatMap AliasNames.assignedNames)

/-- The dotted name of a table. -/
def tablePath (context : Context) (table : Table) : Path :=
  match table.schema, context.defaultSchema with
  | none, some schema => ⟨[schema, table.name]⟩
  | _, _ => table.path

/-- The dotted name of a field. -/
def fieldPath (context : Context) (field : Field) : Except QueryError Path := do
  match field.binding with
  | some ref => pure ⟨[← context.nameOfRef ref, field.name]⟩
  | none => pure ((context.tablePath field.table).push field.name)

/-- The error of asking for a clause that the dialect does not accept. -/
def notSupported (context : Context) (keyword : Keyword) : QueryError :=
  .notSupported keyword.text context.dialect.name

end Context

end SqlWeave
