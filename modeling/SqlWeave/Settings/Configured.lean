import SqlWeave.Compile.Database
import SqlWeave.Dialect.Presets
import SqlWeave.Settings.Basic

/-!
# Configured databases

A database that is named in settings is set up from its engine and schema.
-/

namespace SqlWeave

/-- An error of setting up a database. -/
inductive DatabaseError where
  /-- The settings do not name the database. -/
  | notConfigured (name : String)
  /-- No dialect belongs to the engine. -/
  | unknownEngine (engine : String)
  deriving DecidableEq, Repr

/-- The wording of an error. -/
def DatabaseError.message : DatabaseError → String
  | notConfigured name =>
      "Improperly configured: The database alias '" ++ name ++
        "' is not configured"
  | unknownEngine engine =>
      "Improperly configured: Unknown database engine '" ++ engine ++ "'"

/-- The dialect of an engine, or an error that names the engine. -/
def Dialect.ofEngine (engine : String) : Except DatabaseError Dialect :=
  match Dialect.ofEngine? engine with
  | some dialect => .ok dialect
  | none => .error (.unknownEngine engine)

/-- Set up the database that settings hold under a name, and report it. -/
def Database.ofSettings (settings : Settings) (name : String) :
    Logged (Except DatabaseError Database) :=
  match settings.database? name with
  | none => ⟨.error (.notConfigured name), []⟩
  | some held =>
      match Dialect.ofEngine held.engine with
      | .ok dialect =>
          ⟨.ok ⟨dialect, held.schema⟩, [.configured name dialect.name]⟩
      | .error error => ⟨.error error, []⟩

end SqlWeave
