import SqlWeave.Document.Shape

/-!
# Settings

What a program configures: how it logs, and the databases that it uses, each
under a name.  Settings are read from documents and written to them.
-/

namespace SqlWeave

/-- The configuration of one database. -/
structure DatabaseSettings where
  /-- The name of the engine, from which the dialect is found. -/
  engine : String
  /-- The schema of the tables that declare none. -/
  schema : Option String
  options : Entries String
  deriving DecidableEq, Repr

/-- The whole configuration. -/
structure Settings where
  debug : Bool
  logLevel : String
  databases : Entries DatabaseSettings
  deriving DecidableEq, Repr

/-- The name of the database that is used when none is named. -/
def defaultDatabase : String := "default"

namespace DatabaseSettings

/-- The settings of a database of which nothing is said. -/
def standard : DatabaseSettings := ⟨"sqlite", none, []⟩

/-- The record as decoders name it. -/
def recordName : String := "DatabaseSettings"

/-- The settings of a database as a document. -/
def toDocument (settings : DatabaseSettings) : Document :=
  .object
    [("engine", .text settings.engine),
      ("options",
        .object (settings.options.map fun pair => (pair.1, .text pair.2))),
      ("schema",
        match settings.schema with
        | some schema => .text schema
        | none => .null)]

/-- Read the settings of a database.  A list gives the fields in the order of
their declaration; in an object they are read in the order of their keys. -/
def decode : Decoder DatabaseSettings
  | .object pairs => do
      let engine ← Decoder.field? Decoder.string "engine" pairs
      let options ← Decoder.field? (Decoder.map Decoder.string) "options" pairs
      let schema ← Decoder.field? Decoder.optionalString "schema" pairs
      let engine ← Decoder.required "engine" engine
      let options ← Decoder.required "options" options
      pure ⟨engine, schema.getD none, options⟩
  | .list items => do
      let short := fun length => ShapeError.tooShort length recordName 3
      match items with
      | [] => .error (short 0)
      | engine :: items =>
          let engine ← Decoder.string engine
          match items with
          | [] => .error (short 1)
          | schema :: items =>
              let schema ← Decoder.optionalString schema
              match items with
              | [] => .error (short 2)
              | options :: items =>
                  let options ← Decoder.map Decoder.string options
                  if items.isEmpty then pure ⟨engine, schema, options⟩
                  else .error (.tooLong (3 + items.length))
  | document => Decoder.mismatch (.record recordName 3) document

end DatabaseSettings

namespace Settings

/-- The settings of a program of which nothing is said. -/
def standard : Settings :=
  ⟨true, "info", [(defaultDatabase, DatabaseSettings.standard)]⟩

/-- The record as decoders name it. -/
def recordName : String := "Settings"

/-- The settings of a database. -/
def database? (settings : Settings) (name : String) :
    Option DatabaseSettings :=
  Entries.get? name settings.databases

/-- The settings as a document. -/
def toDocument (settings : Settings) : Document :=
  .object
    [("databases",
        .object (settings.databases.map fun pair =>
          (pair.1, pair.2.toDocument))),
      ("debug", .bool settings.debug),
      ("log_level", .text settings.logLevel)]

/-- Read settings.  A list gives the fields in the order of their declaration;
in an object they are read in the order of their keys. -/
def decode : Decoder Settings
  | .object pairs => do
      let databases ←
        Decoder.field? (Decoder.map DatabaseSettings.decode) "databases" pairs
      let debug ← Decoder.field? Decoder.boolean "debug" pairs
      let logLevel ← Decoder.field? Decoder.string "log_level" pairs
      let debug ← Decoder.required "debug" debug
      let logLevel ← Decoder.required "log_level" logLevel
      let databases ← Decoder.required "databases" databases
      pure ⟨debug, logLevel, databases⟩
  | .list items => do
      let short := fun length => ShapeError.tooShort length recordName 3
      match items with
      | [] => .error (short 0)
      | debug :: items =>
          let debug ← Decoder.boolean debug
          match items with
          | [] => .error (short 1)
          | logLevel :: items =>
              let logLevel ← Decoder.string logLevel
              match items with
              | [] => .error (short 2)
              | databases :: items =>
                  let databases ←
                    Decoder.map DatabaseSettings.decode databases
                  if items.isEmpty then pure ⟨debug, logLevel, databases⟩
                  else .error (.tooLong (3 + items.length))
  | document => Decoder.mismatch (.record recordName 3) document

end Settings

end SqlWeave
