import SqlWeave.Proofs.Document.Paths
import SqlWeave.Proofs.Settings.Defaults
import SqlWeave.Proofs.Settings.Overrides
import SqlWeave.Proofs.Settings.RoundTrip

/-!
# Layers of settings

Settings have three sources: the environment, a file and the standard settings.
Each setting is taken from the first of them that gives it
(`Settings.override_layers`).  What a file gives is what its document holds for
the setting; that it is decoded as it stands, although it is laid over the
standard settings, is due to these holding no keys below a setting
(`Settings.heeds_of_object`).
-/

namespace SqlWeave

namespace DatabaseSettings

/-- Settings of a database are as a document gives them. -/
structure Heeds (document : Document) (settings : DatabaseSettings) :
    Prop where
  engine : ∀ part, document.part? fields "engine" = some part →
    Decoder.string part = .ok settings.engine
  schema : ∀ part, document.part? fields "schema" = some part →
    Decoder.optionalString part = .ok settings.schema
  options : ∀ part, document.part? fields "options" = some part →
    Decoder.map Decoder.string part = .ok settings.options

theorem heeds_of_decode {document : Document} {settings : DatabaseSettings}
    (decoded : decode document = .ok settings) : settings.Heeds document := by
  cases document with
  | object pairs =>
      have held := heldBy_of_decode decoded
      obtain ⟨options, given, each⟩ := held.options
      constructor
      · intro part present
        cases held.engine.symm.trans present
        rfl
      · intro part present
        have schema := held.schema
        rwa [show Entries.get? "schema" pairs = some part from present]
          at schema
      · intro part present
        cases given.symm.trans present
        exact each
  | list items =>
      obtain ⟨engine, schema, options, rfl, readEngine, readSchema,
        readOptions⟩ := exists_parts_of_decode_list decoded
      constructor
      · intro part present
        cases present
        exact readEngine
      · intro part present
        cases present
        exact readSchema
      · intro part present
        cases present
        exact readOptions
  | _ => cases decoded

/-- No standard setting of a database has keys, so what is laid over it takes its
place. -/
theorem part?_merge_standard {entries : List (String × Document)}
    (ordered : (Document.object entries).Ordered) {name : String}
    {part : Document}
    (given : (Document.object entries).part? fields name = some part) :
    (standard.toDocument.merge (.object entries)).part? fields name =
      some part := by
  apply Document.get?_merge_of_empty standard.toDocument ordered given
  intro held found inner
  have member := Entries.mem_of_get? found
  simp only [List.mem_cons, List.not_mem_nil, or_false, Prod.mk.injEq]
    at member
  obtain ⟨_, rfl⟩ | ⟨_, rfl⟩ | ⟨_, rfl⟩ := member <;> rfl

theorem heeds_of_decode_merge {document : Document}
    (ordered : document.Ordered) {settings : DatabaseSettings}
    (decoded : decode (standard.toDocument.merge document) = .ok settings) :
    settings.Heeds document := by
  have heeds := heeds_of_decode decoded
  cases document with
  | object entries =>
      constructor
      · intro part given
        exact heeds.engine part (part?_merge_standard ordered given)
      · intro part given
        exact heeds.schema part (part?_merge_standard ordered given)
      · intro part given
        exact heeds.options part (part?_merge_standard ordered given)
  | _ => exact heeds

end DatabaseSettings

namespace Settings

/-- Settings are as a document gives them, and so are those of the database that
is used when none is named. -/
structure Heeds (document : Document) (settings : Settings) : Prop where
  debug : ∀ part, document.part? fields "debug" = some part →
    Decoder.boolean part = .ok settings.debug
  logLevel : ∀ part, document.part? fields "log_level" = some part →
    Decoder.string part = .ok settings.logLevel
  default : ∀ held, settings.database? defaultDatabase = some held →
    ∀ part, default? document = some part → held.Heeds part

theorem heeds_of_object {entries : List (String × Document)}
    (ordered : (Document.object entries).Ordered) {settings : Settings}
    (decoded : ofDocument (.object entries) = .ok settings) :
    settings.Heeds (.object entries) := by
  have held := heldBy_of_decode decoded
  obtain ⟨merged, found, each⟩ := held.databases
  constructor
  · intro part given
    have place := Document.get?_merge_of_empty standard.toDocument ordered
      given (fun held found inner => by cases found; rfl)
    cases held.debug.symm.trans place
    rfl
  · intro part given
    have place := Document.get?_merge_of_empty standard.toDocument ordered
      given (fun held found inner => by cases found; rfl)
    cases held.logLevel.symm.trans place
    rfl
  · intro default configured part given
    obtain ⟨databases, present, inside⟩ := Option.bind_eq_some_iff.mp given
    have place :=
      Document.get?_merge_of_some standard.toDocument ordered present
    have above := ordered.get? present
    cases above with
    | @object changes inOrder parts =>
        cases found.symm.trans place
        obtain ⟨other, read, configured'⟩ :=
          Decoder.exists_get?_of_entries each
            (Document.get?_mergeEntries_of_some inOrder inside)
        cases configured'.symm.trans configured
        exact DatabaseSettings.heeds_of_decode_merge
          (parts _ (Entries.mem_of_get? inside)) read
    | _ => cases inside

end Settings

/-! ## Sources of a setting -/

/-- Where the value of a setting comes from: the environment, if its variable is
set; else the file, if its document gives the setting; else the standard
settings. -/
inductive ComesFrom {α : Type} (set? : Option α)
    (given? : Option Document) (decoder : Decoder α) (fallback : α) :
    α → Prop where
  | environment {value : α} (found : set? = some value) :
      ComesFrom set? given? decoder fallback value
  | file {document : Document} {value : α} (unset : set? = none)
      (given : given? = some document)
      (read : decoder document = .ok value) :
      ComesFrom set? given? decoder fallback value
  | standard (unset : set? = none) (absent : given? = none) :
      ComesFrom set? given? decoder fallback fallback

namespace ComesFrom

variable {α : Type} {given? : Option Document} {decoder : Decoder α}
  {fallback value : α}

/-- Without the environment the file decides, and then the standard settings. -/
theorem of_file
    (given : ∀ part, given? = some part → decoder part = .ok value)
    (absent : given? = none → value = fallback) :
    ComesFrom none given? decoder fallback value := by
  cases found : given? with
  | some part => exact .file rfl rfl (given part found)
  | none =>
      rw [absent found]
      exact .standard rfl rfl

/-- A setting inside a part of the document that may be missing. -/
theorem of_part {document : Option Document} {names : List String}
    {name : String}
    (given : ∀ part, document = some part → ∀ inner,
      part.part? names name = some inner → decoder inner = .ok value)
    (absent : document.bind (Document.part? names name) = none →
      value = fallback) :
    ComesFrom none (document.bind (Document.part? names name)) decoder
      fallback value := by
  apply of_file _ absent
  intro inner present
  obtain ⟨part, found, inside⟩ := Option.bind_eq_some_iff.mp present
  exact given part found inner inside

/-- A variable that is set takes the place of what was loaded. -/
theorem override (loaded : ComesFrom none given? decoder fallback value)
    (set? : Option α) :
    ComesFrom set? given? decoder fallback (set?.getD value) := by
  cases set? with
  | some value => exact .environment rfl
  | none => exact loaded

end ComesFrom

/-- Each setting of the database that is used when none is named comes from the
first source that gives it. -/
structure DatabaseSettings.Layered (environment : Environment)
    (given : Option Document) (settings : DatabaseSettings) : Prop where
  engine : ComesFrom environment.engine
    (given.bind (Document.part? fields "engine")) Decoder.string
    standard.engine settings.engine
  schema : ComesFrom (environment.schema.map Environment.schemaOf)
    (given.bind (Document.part? fields "schema")) Decoder.optionalString
    standard.schema settings.schema
  options : ComesFrom none
    (given.bind (Document.part? fields "options"))
    (Decoder.map Decoder.string) standard.options settings.options

/-- Each setting comes from the first source that gives it. -/
structure Settings.Layered (environment : Environment) (document : Document)
    (settings : Settings) : Prop where
  debug : ComesFrom (environment.debug.map Environment.isYes)
    (document.part? fields "debug") Decoder.boolean
    standard.debug settings.debug
  logLevel : ComesFrom environment.logLevel
    (document.part? fields "log_level") Decoder.string
    standard.logLevel settings.logLevel
  default : ∃ held, settings.database? defaultDatabase = some held ∧
    held.Layered environment (default? document)

/-- The environment in which no variable is set. -/
def Environment.unset : Environment := ⟨none, none, none, none⟩

/-- A file that holds the octets of a text holds this text. -/
theorem SettingsFile.text_toUTF8 (path source : String) :
    SettingsFile.text ⟨path, some source.toUTF8⟩ = .ok source := by
  simp [SettingsFile.text, String.fromUTF8?, String.fromUTF8,
    source.isValidUTF8]

theorem DatabaseSettings.Layered.override {given : Option Document}
    {held : DatabaseSettings} (layered : held.Layered .unset given)
    (environment : Environment) :
    (environment.onDatabase held).Layered environment given where
  engine := layered.engine.override environment.engine
  schema := layered.schema.override
    (environment.schema.map Environment.schemaOf)
  options := layered.options

namespace Settings

theorem Layered.override {document : Document} {settings : Settings}
    (layered : settings.Layered .unset document) (environment : Environment) :
    (settings.override environment).Layered environment document := by
  obtain ⟨held, configured, default⟩ := layered.default
  constructor
  · rw [debug_override]
    exact layered.debug.override (environment.debug.map Environment.isYes)
  · rw [logLevel_override]
    exact layered.logLevel.override environment.logLevel
  · refine ⟨environment.onDatabase held, ?_, default.override environment⟩
    rw [database?_override, heldDefault, configured, Option.getD_some]
    split
    · rfl
    · next silent =>
      rw [and_iff_left rfl, Bool.not_eq_true] at silent
      rw [Environment.onDatabase_of_not_namesDefault silent]

theorem layered_of_object {entries : List (String × Document)}
    (ordered : (Document.object entries).Ordered) {settings : Settings}
    (decoded : ofDocument (.object entries) = .ok settings) :
    settings.Layered .unset (.object entries) := by
  have heeds := heeds_of_object ordered decoded
  have keeps := keepsDefaults_of_object ordered decoded
  obtain ⟨held, configured, kept⟩ := keeps.default
  have default := heeds.default held configured
  refine ⟨.of_file heeds.debug keeps.debug,
    .of_file heeds.logLevel keeps.logLevel, held, configured, ?_, ?_, ?_⟩
  · exact .of_part (fun part found => (default part found).engine) kept.engine
  · exact .of_part (fun part found => (default part found).schema) kept.schema
  · exact .of_part (fun part found => (default part found).options)
      kept.options

/-- A TOML file whose settings are loaded holds an object, and the settings are
layered on it. -/
theorem exists_layered_of_ofFile {readers : SettingsReaders}
    (lawful : readers.Lawful) {file : SettingsFile} {settings : Settings}
    (loaded : ofFile readers .toml file = .ok settings) :
    ∃ text document, file.text = .ok text ∧
      readers.read? .toml text = some document ∧
      settings.Layered .unset document := by
  rw [ofFile] at loaded
  cases found : file.text with
  | error failure =>
      rw [found] at loaded
      cases loaded
  | ok text =>
      rw [found] at loaded
      obtain ⟨document, read, decoded⟩ := ofText_eq_ok_iff.mp loaded
      have ordered : document.Ordered := lawful.ordered _ _ _ read
      refine ⟨text, document, rfl, read, ?_⟩
      cases document with
      | object entries => exact layered_of_object ordered decoded
      | list items => exact absurd read (lawful.toml_ne_list _ _)
      | _ => cases decoded

/-- A file that turns debugging off, and gives a schema and another database. -/
def quietSource : String :=
  "debug = false\n[databases.default]\nschema = 's'\n" ++
    "[databases.old]\nengine = 'mysql'\noptions = \x7b\x7d"

/-- The settings of that file. -/
def quiet : Settings :=
  ⟨false, "info",
    [(defaultDatabase, ⟨"sqlite", some "s", []⟩), ("old", ⟨"mysql", none, []⟩)]⟩

/-- An environment that sets another logging and no schema. -/
def tracing : Environment := ⟨none, some "trace", none, some ""⟩

end Settings

end SqlWeave
