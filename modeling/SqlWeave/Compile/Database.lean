import SqlWeave.Compile.Statement
import SqlWeave.Compile.Template
import SqlWeave.Query.Node

/-!
# Databases

A database is a dialect with the schema of the tables that declare none.  It
compiles every kind of node to a statement.
-/

namespace SqlWeave

/-- The script of a node. -/
def Node.script (context : Context) : Node → Script
  | keyword word => Script.keyword word
  | path name => Script.name name
  | value constant => constant.script
  | table declared => declared.script context
  | aliased renamed => renamed.script context
  | join chain => chain.script context
  | field column => column.script context
  | expr held => held.script context
  | term ordered => ordered.script context
  | select query => query.script context
  | compound query => query.script context

/-- A database that statements are compiled for. -/
structure Database where
  dialect : Dialect
  /-- The schema of the tables that declare none. -/
  schema : Option String
  deriving DecidableEq, Repr

namespace Database

/-- The context of a whole statement for the database. -/
def context (database : Database) : Context :=
  .outermost database.dialect database.schema

/-- The script of a node as a whole statement. -/
def script (database : Database) (node : Node) : Script :=
  node.script database.context

/-- The statement that a script writes, unless the script fails. -/
def finish (database : Database) (script : Script) :
    Except QueryError Statement :=
  match script.failure? with
  | some error => .error error
  | none => .ok ⟨database.dialect, script.fragments⟩

/-- Compile a node to a statement, reporting the start and the end. -/
def compile (database : Database) (node : Node) :
    Logged (Except QueryError Statement) :=
  let script := database.script node
  let result := database.finish script
  ⟨result,
    .compiling database.dialect.name :: script.events ++
      match result with
      | .ok statement =>
          [.compiled statement.values.length statement.template]
      | .error _ => []⟩

/-- Compile a node to a text with its values inlined, for people only. -/
def inlined (database : Database) (node : Node) :
    Logged (Except QueryError String) :=
  let script := database.script node
  ⟨(database.finish script).map Statement.inlined, script.events⟩

end Database

end SqlWeave
