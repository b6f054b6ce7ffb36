import SqlWeave.Proofs.Document.Keys
import SqlWeave.Settings.Environment

/-!
# Overridden settings

Each variable of the environment changes the one setting that it names.  Two of
them name settings of the database that is used when none is named, so this
database is all that can be added, and its entry is all that can change among
the databases (`Settings.databases_override`).
-/

namespace SqlWeave

namespace Environment

/-- Whether a variable names a setting of the database that is used when none is
named. -/
def namesDefault (environment : Environment) : Bool :=
  environment.engine.isSome || environment.schema.isSome

/-- The settings of a database with the variables that are set in place of what
they name. -/
def onDatabase (environment : Environment) (held : DatabaseSettings) :
    DatabaseSettings where
  engine := environment.engine.getD held.engine
  schema := (environment.schema.map schemaOf).getD held.schema
  options := held.options

theorem onDatabase_onDatabase (environment : Environment)
    (held : DatabaseSettings) :
    environment.onDatabase (environment.onDatabase held) =
      environment.onDatabase held := by
  obtain ⟨debug, logLevel, engine, schema⟩ := environment
  cases engine <;> cases schema <;> rfl

theorem onDatabase_of_not_namesDefault {environment : Environment}
    (silent : environment.namesDefault = false) (held : DatabaseSettings) :
    environment.onDatabase held = held := by
  simp only [namesDefault, Bool.or_eq_false_iff, Option.isSome_eq_false_iff,
    Option.isNone_iff_eq_none] at silent
  simp [onDatabase, silent]

end Environment

namespace Settings

/-- The database that is used when none is named, or the standard one if it is
missing. -/
def heldDefault (settings : Settings) : DatabaseSettings :=
  (settings.database? defaultDatabase).getD .standard

theorem eq_of_fields {first second : Settings}
    (debug : first.debug = second.debug)
    (logLevel : first.logLevel = second.logLevel)
    (databases : first.databases = second.databases) : first = second := by
  cases first
  cases second
  simp_all

/-! ## One change of the default database -/

theorem database?_editDefault (settings : Settings)
    (edit : DatabaseSettings → DatabaseSettings) (name : String) :
    (settings.editDefault edit).database? name =
      if name = defaultDatabase then some (edit settings.heldDefault)
      else settings.database? name := by
  split
  · next same =>
    subst same
    exact Entries.get?_put_self _ _ _
  · next differs => exact Entries.get?_put_of_ne differs _ _

theorem heldDefault_editDefault (settings : Settings)
    (edit : DatabaseSettings → DatabaseSettings) :
    (settings.editDefault edit).heldDefault = edit settings.heldDefault := by
  rw [heldDefault, database?_editDefault, if_pos rfl, Option.getD_some]

/-- Two changes are one. -/
theorem editDefault_editDefault (settings : Settings)
    (first second : DatabaseSettings → DatabaseSettings) :
    (settings.editDefault first).editDefault second =
      settings.editDefault fun held => second (first held) := by
  have held := settings.heldDefault_editDefault first
  simp only [heldDefault] at held
  simp only [editDefault] at held ⊢
  rw [held, Entries.put_put]

/-! ## All variables -/

/-- Whatever is set, the variables change the logging and, if they name it, the
database that is used when none is named. -/
theorem override_eq (settings : Settings) (environment : Environment) :
    settings.override environment =
      let logged : Settings :=
        { settings with
          debug :=
            (environment.debug.map Environment.isYes).getD settings.debug
          logLevel := environment.logLevel.getD settings.logLevel }
      if environment.namesDefault then
        logged.editDefault environment.onDatabase
      else logged := by
  obtain ⟨debug, logLevel, engine, schema⟩ := environment
  cases debug <;> cases logLevel <;> cases engine <;> cases schema <;>
    simp [override, Environment.namesDefault, editDefault_editDefault] <;> rfl

theorem debug_override (settings : Settings) (environment : Environment) :
    (settings.override environment).debug =
      (environment.debug.map Environment.isYes).getD settings.debug := by
  rw [override_eq]
  split <;> rfl

theorem logLevel_override (settings : Settings) (environment : Environment) :
    (settings.override environment).logLevel =
      environment.logLevel.getD settings.logLevel := by
  rw [override_eq]
  split <;> rfl

theorem databases_override (settings : Settings) (environment : Environment) :
    (settings.override environment).databases =
      if environment.namesDefault then
        Entries.put defaultDatabase
          (environment.onDatabase settings.heldDefault) settings.databases
      else settings.databases := by
  rw [override_eq]
  split <;> rfl

theorem database?_override (settings : Settings) (environment : Environment)
    (name : String) :
    (settings.override environment).database? name =
      if environment.namesDefault ∧ name = defaultDatabase then
        some (environment.onDatabase settings.heldDefault)
      else settings.database? name := by
  rw [database?, databases_override]
  cases environment.namesDefault with
  | false => simp [database?]
  | true =>
      by_cases same : name = defaultDatabase
      · simp [same, Entries.get?_put_self]
      · simp [same, Entries.get?_put_of_ne same, database?]

/-- If there is a database that is used when none is named, it is what the
variables make of the one before. -/
theorem eq_onDatabase_of_override {settings : Settings}
    {environment : Environment} {held : DatabaseSettings}
    (configured : (settings.override environment).database? defaultDatabase =
      some held) :
    held = environment.onDatabase settings.heldDefault := by
  rw [database?_override] at configured
  cases names : environment.namesDefault with
  | true =>
      simp only [names, and_self, ↓reduceIte] at configured
      exact (Option.some.inj configured).symm
  | false =>
      simp only [names, Bool.false_eq_true, false_and, ↓reduceIte] at configured
      rw [Environment.onDatabase_of_not_namesDefault names, heldDefault,
        configured, Option.getD_some]

theorem heldDefault_override (settings : Settings)
    (environment : Environment) :
    (settings.override environment).heldDefault =
      environment.onDatabase settings.heldDefault := by
  cases configured :
      (settings.override environment).database? defaultDatabase with
  | some held =>
      rw [heldDefault, configured, Option.getD_some]
      exact eq_onDatabase_of_override configured
  | none =>
      rw [heldDefault, configured, Option.getD_none]
      rw [database?_override] at configured
      split at configured
      · cases configured
      · next silent =>
        rw [and_iff_left rfl, Bool.not_eq_true] at silent
        rw [Environment.onDatabase_of_not_namesDefault silent, heldDefault,
          configured, Option.getD_none]

/-- What the variables have changed they do not change again. -/
theorem override_override (settings : Settings) (environment : Environment) :
    (settings.override environment).override environment =
      settings.override environment := by
  have debug : ((settings.override environment).override environment).debug =
      (settings.override environment).debug := by
    simp only [debug_override]
    cases environment.debug <;> rfl
  have logLevel :
      ((settings.override environment).override environment).logLevel =
        (settings.override environment).logLevel := by
    simp only [logLevel_override]
    cases environment.logLevel <;> rfl
  have databases :
      ((settings.override environment).override environment).databases =
        (settings.override environment).databases := by
    rw [databases_override, heldDefault_override,
      Environment.onDatabase_onDatabase, databases_override]
    split
    · rw [Entries.put_put]
    · rfl
  exact eq_of_fields debug logLevel databases

/-- The only name that is added is that of the default database. -/
theorem mem_keys_override (settings : Settings) (environment : Environment)
    (name : String) :
    name ∈ (settings.override environment).databases.keys ↔
      name ∈ settings.databases.keys ∨
        name = defaultDatabase ∧ environment.namesDefault = true := by
  rw [databases_override]
  cases environment.namesDefault with
  | false => simp
  | true => simp [Entries.mem_keys_put, or_comm]

/-- The databases with other names stay as they are. -/
theorem filter_override (settings : Settings) (environment : Environment) :
    (settings.override environment).databases.filter
        (fun entry => entry.1 ≠ defaultDatabase) =
      settings.databases.filter fun entry => entry.1 ≠ defaultDatabase := by
  rw [databases_override]
  split
  · exact Entries.filter_put _ _ _
  · rfl

end Settings

end SqlWeave
