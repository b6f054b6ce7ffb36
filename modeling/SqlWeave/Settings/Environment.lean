import SqlWeave.Settings.Load

/-!
# Settings from the environment

Variables of the environment take precedence over settings from a file.  Each
variable changes one setting and leaves all others alone.
-/

namespace SqlWeave

/-- The variables that settings heed, each if it is set. -/
structure Environment where
  debug : Option String
  logLevel : Option String
  /-- The engine of the database that is used when none is named. -/
  engine : Option String
  /-- The schema of that database; an empty one means none. -/
  schema : Option String
  deriving DecidableEq, Repr

namespace Environment

/-- Whether the text of a variable means yes.  The case of its letters does
not matter. -/
def isYes (text : String) : Bool :=
  let word := String.ofList (text.toList.map Char.toLower)
  word == "true" || word == "1" || word == "yes"

/-- A schema as the environment gives it. -/
def schemaOf (text : String) : Option String :=
  if text.isEmpty then none else some text

end Environment

namespace Settings

/-- Change the database that is used when none is named.  If it is missing it
starts from the standard one. -/
def editDefault (settings : Settings)
    (edit : DatabaseSettings → DatabaseSettings) : Settings :=
  let held := (settings.database? defaultDatabase).getD .standard
  { settings with
    databases := Entries.put defaultDatabase (edit held) settings.databases }

/-- The settings with the variables that are set in place of what they name. -/
def override (settings : Settings) (environment : Environment) : Settings :=
  let settings :=
    match environment.debug with
    | some text => { settings with debug := Environment.isYes text }
    | none => settings
  let settings :=
    match environment.logLevel with
    | some level => { settings with logLevel := level }
    | none => settings
  let settings :=
    match environment.engine with
    | some engine =>
        settings.editDefault fun held => { held with engine := engine }
    | none => settings
  match environment.schema with
  | some schema =>
      settings.editDefault fun held =>
        { held with schema := Environment.schemaOf schema }
  | none => settings

/-- The settings that the environment alone gives. -/
def ofEnvironment (environment : Environment) : Settings :=
  standard.override environment

/-- The settings that a file gives, changed by the environment. -/
def ofFileAndEnvironment (readers : SettingsReaders) (format : SettingsFormat)
    (file : SettingsFile) (environment : Environment) :
    Except SettingsError Settings :=
  (ofFile readers format file).map fun settings =>
    settings.override environment

end Settings

end SqlWeave
