import Mathlib
import SqlWeave.Proofs.Settings.Decoding
import SqlWeave.Proofs.Settings.Readers
import SqlWeave.Settings.Configured

/-!
# Defaults of loaded settings

Settings are laid over the standard ones, so what a document leaves out keeps
its standard value: the logging of the program, and engine, schema and options
of the database that is used when none is named, which is always configured.
This holds of every document that is an object (`Settings.keeps_of_decode`).  A
list of the three fields takes the place of the standard settings as a whole, so
it has to name that database itself (`Settings.keepsDefaults_iff`).
-/

namespace SqlWeave

/-- A field of a record.  Records are written as objects, or as the lists of
their fields in the order of their declaration. -/
def Document.part? (fields : List String) (name : String) :
    Document → Option Document
  | .object entries => Entries.get? name entries
  | .list items => items[fields.idxOf name]?
  | _ => none

namespace DatabaseSettings

/-- The fields in the order of their declaration. -/
def fields : List String := ["engine", "schema", "options"]

/-- The settings have standard values in all fields that a document, if there
is one, does not give. -/
structure KeepsDefaults (given : Option Document)
    (settings : DatabaseSettings) : Prop where
  engine : given.bind (Document.part? fields "engine") = none →
    settings.engine = standard.engine
  schema : given.bind (Document.part? fields "schema") = none →
    settings.schema = standard.schema
  options : given.bind (Document.part? fields "options") = none →
    settings.options = standard.options

theorem decode_standard : decode standard.toDocument = .ok standard := rfl

theorem keepsDefaults_standard (given : Option Document) :
    standard.KeepsDefaults given :=
  ⟨fun _ => rfl, fun _ => rfl, fun _ => rfl⟩

/-- Settings that are decoded from a document as it stands give all fields, but
for the schema. -/
theorem keepsDefaults_of_decode {document : Document}
    {settings : DatabaseSettings}
    (decoded : decode document = .ok settings) :
    settings.KeepsDefaults (some document) := by
  cases document with
  | object pairs =>
      have held := heldBy_of_decode decoded
      obtain ⟨options, given, _⟩ := held.options
      constructor
      · intro absent
        cases held.engine.symm.trans absent
      · intro absent
        have schema := held.schema
        rw [show Entries.get? "schema" pairs = none from absent] at schema
        exact (Except.ok.inj schema).symm
      · intro absent
        cases given.symm.trans absent
  | list items =>
      obtain ⟨engine, schema, options, rfl, _⟩ := exists_of_decode_list decoded
      exact ⟨nofun, nofun, nofun⟩
  | _ => cases decoded

/-- Settings that are laid over the standard ones keep what they do not give. -/
theorem keepsDefaults_of_decode_merge {document : Document}
    (ordered : document.Ordered) {settings : DatabaseSettings}
    (decoded : decode (standard.toDocument.merge document) = .ok settings) :
    settings.KeepsDefaults (some document) := by
  cases ordered with
  | @object entries sorted each =>
      rw [toDocument, Document.merge] at decoded
      have held := heldBy_of_decode decoded
      obtain ⟨options, given, read⟩ := held.options
      constructor
      · intro absent
        have engine := held.engine
        rw [Document.get?_mergeEntries_of_none absent] at engine
        exact (Document.text.inj (Option.some.inj engine)).symm
      · intro absent
        have schema := held.schema
        rw [Document.get?_mergeEntries_of_none absent] at schema
        exact (Except.ok.inj schema).symm
      · intro absent
        rw [Document.get?_mergeEntries_of_none absent] at given
        cases given
        exact (Except.ok.inj read).symm
  | @list items each => exact keepsDefaults_of_decode decoded
  | _ => cases decoded

end DatabaseSettings

namespace Settings

/-- The fields in the order of their declaration. -/
def fields : List String := ["debug", "log_level", "databases"]

/-- What a document gives for the database that is used when none is named. -/
def default? (document : Document) : Option Document :=
  (document.part? fields "databases").bind (Document.get? defaultDatabase)

/-- The settings have standard values in everything that a document does not
give.  They hold all databases of the document and the one that is used when none
is named, which fails to be set up only because of its engine. -/
structure KeepsDefaults (document : Document) (settings : Settings) : Prop where
  debug : document.part? fields "debug" = none →
    settings.debug = standard.debug
  logLevel : document.part? fields "log_level" = none →
    settings.logLevel = standard.logLevel
  databases : ∀ databases name,
    document.part? fields "databases" = some databases →
      (databases.get? name).isSome → (settings.database? name).isSome
  default : ∃ held, settings.database? defaultDatabase = some held ∧
    held.KeepsDefaults (default? document)
  setUp : ∀ error,
    (Database.ofSettings settings defaultDatabase).result = .error error →
      ∃ engine, error = .unknownEngine engine

/-- The document is a list of all fields whose databases lack the one that is
used when none is named. -/
def OmitsDefault (document : Document) : Prop :=
  ∃ debug level databases, document = .list [debug, level, databases] ∧
    databases.get? defaultDatabase = none

/-- A database that is configured fails to be set up only because of its
engine. -/
theorem exists_unknownEngine_of_ofSettings {settings : Settings} {name : String}
    {held : DatabaseSettings} (configured : settings.database? name = some held)
    {error : DatabaseError}
    (failed : (Database.ofSettings settings name).result = .error error) :
    ∃ engine, error = .unknownEngine engine := by
  cases found : Dialect.ofEngine? held.engine with
  | some dialect =>
      simp [Database.ofSettings, configured, Dialect.ofEngine, found] at failed
  | none =>
      simp only [Database.ofSettings, configured, Dialect.ofEngine, found]
        at failed
      exact ⟨held.engine, (Except.error.inj failed).symm⟩

theorem KeepsDefaults.of_default {document : Document} {settings : Settings}
    (debug : document.part? fields "debug" = none →
      settings.debug = standard.debug)
    (logLevel : document.part? fields "log_level" = none →
      settings.logLevel = standard.logLevel)
    (databases : ∀ databases name,
      document.part? fields "databases" = some databases →
        (databases.get? name).isSome → (settings.database? name).isSome)
    {held : DatabaseSettings}
    (configured : settings.database? defaultDatabase = some held)
    (kept : held.KeepsDefaults (default? document)) :
    settings.KeepsDefaults document :=
  ⟨debug, logLevel, databases, ⟨held, configured, kept⟩,
    fun _ failed => exists_unknownEngine_of_ofSettings configured failed⟩

/-- The databases of a document are laid over the standard ones. -/
theorem databases_of_entries_merge {changes : List (String × Document)}
    (ordered : (Document.object changes).Ordered)
    {databases : Entries DatabaseSettings}
    (decoded : Decoder.entries DatabaseSettings.decode
      (Document.mergeEntries
        [(defaultDatabase, DatabaseSettings.standard.toDocument)] changes) =
        .ok databases) :
    (∀ name, (Entries.get? name changes).isSome →
        (Entries.get? name databases).isSome) ∧
      ∃ held, Entries.get? defaultDatabase databases = some held ∧
        held.KeepsDefaults (Entries.get? defaultDatabase changes) := by
  obtain _ | _ | _ | _ | _ | _ | ⟨sorted, each⟩ := ordered
  constructor
  · intro name given
    obtain ⟨change, found⟩ := Option.isSome_iff_exists.mp given
    obtain ⟨held, _, configured⟩ := Decoder.exists_get?_of_entries decoded
      (Document.get?_mergeEntries_of_some sorted found)
    rw [configured]
    rfl
  · cases given : Entries.get? defaultDatabase changes with
    | none =>
        obtain ⟨held, read, configured⟩ := Decoder.exists_get?_of_entries decoded
          (Document.get?_mergeEntries_of_none given)
        cases DatabaseSettings.decode_standard.symm.trans read
        exact ⟨.standard, configured,
          DatabaseSettings.keepsDefaults_standard none⟩
    | some change =>
        obtain ⟨held, read, configured⟩ := Decoder.exists_get?_of_entries decoded
          (Document.get?_mergeEntries_of_some sorted given)
        have part : change.Ordered := each _ (Entries.mem_of_get? given)
        exact ⟨held, configured,
          DatabaseSettings.keepsDefaults_of_decode_merge part read⟩

/-- Settings that are laid over the standard ones by name keep what they do not
give. -/
theorem keepsDefaults_of_object {entries : List (String × Document)}
    (ordered : (Document.object entries).Ordered) {settings : Settings}
    (decoded : ofDocument (.object entries) = .ok settings) :
    settings.KeepsDefaults (.object entries) := by
  rw [ofDocument, toDocument, Document.merge] at decoded
  have held := heldBy_of_decode decoded
  obtain ⟨merged, found, each⟩ := held.databases
  obtain _ | _ | _ | _ | _ | _ | ⟨sorted, parts⟩ := ordered
  have debug (absent : Entries.get? "debug" entries = none) :
      settings.debug = standard.debug := by
    have kept := held.debug
    rw [Document.get?_mergeEntries_of_none absent] at kept
    exact (Document.bool.inj (Option.some.inj kept)).symm
  have logLevel (absent : Entries.get? "log_level" entries = none) :
      settings.logLevel = standard.logLevel := by
    have kept := held.logLevel
    rw [Document.get?_mergeEntries_of_none absent] at kept
    exact (Document.text.inj (Option.some.inj kept)).symm
  cases given : Entries.get? "databases" entries with
  | none =>
      rw [Document.get?_mergeEntries_of_none given] at found
      cases found
      obtain ⟨_, default, configured, kept⟩ :=
        databases_of_entries_merge (.object List.Pairwise.nil
          (List.forall_mem_nil _)) each
      refine .of_default debug logLevel ?_ configured ?_
      · intro databases name other
        cases given.symm.trans other
      · rw [default?, Document.part?, given]
        exact kept
  | some upper =>
      rw [Document.get?_mergeEntries_of_some sorted given] at found
      have part : upper.Ordered := parts _ (Entries.mem_of_get? given)
      cases upper with
      | object changes =>
          cases found
          obtain ⟨aliases, default, configured, kept⟩ :=
            databases_of_entries_merge part each
          refine .of_default debug logLevel ?_ configured ?_
          · intro databases name other present
            cases given.symm.trans other
            exact aliases name present
          · rw [default?, Document.part?, given]
            exact kept
      | _ => cases found

/-- Settings that are listed as a whole keep the standard ones exactly if they
name the database that is used when none is named. -/
theorem keepsDefaults_list_iff {items : List Document} {settings : Settings}
    (decoded : ofDocument (.list items) = .ok settings) :
    settings.KeepsDefaults (.list items) ↔ ¬ OmitsDefault (.list items) := by
  rw [ofDocument, toDocument, Document.merge] at decoded
  obtain ⟨databases, rfl, each⟩ := exists_of_decode_list decoded
  constructor
  · rintro kept ⟨debug, level, other, equal, absent⟩
    cases equal
    obtain ⟨held, configured, _⟩ := kept.default
    cases (Decoder.get?_eq_none_of_entries each absent).symm.trans configured
  · intro named
    cases given : Entries.get? defaultDatabase databases with
    | none => exact absurd ⟨_, _, _, rfl, given⟩ named
    | some document =>
        obtain ⟨held, read, configured⟩ :=
          Decoder.exists_get?_of_entries each given
        have debug := Option.some_ne_none (Document.bool settings.debug)
        have level := Option.some_ne_none (Document.text settings.logLevel)
        refine .of_default (absurd · debug) (absurd · level) ?_ configured ?_
        · intro other name same present
          cases same
          obtain ⟨document, found⟩ := Option.isSome_iff_exists.mp present
          obtain ⟨_, _, configured⟩ :=
            Decoder.exists_get?_of_entries each found
          rw [database?, configured]
          rfl
        · have listed : default? (.list [.bool settings.debug,
              .text settings.logLevel, .object databases]) = some document :=
            given
          rw [listed]
          exact DatabaseSettings.keepsDefaults_of_decode read

/-- What loaded settings keep of the standard ones: everything that the document
does not give, unless it is a list of all fields whose databases lack the one
that is used when none is named.  Only JSON texts are lists. -/
theorem keepsDefaults_iff (readers : SettingsReaders) (lawful : readers.Lawful)
    (format : SettingsFormat) (source : String) (settings : Settings)
    (loaded : ofText readers format source = .ok settings) :
    ∃ document, readers.read? format source = some document ∧
      (settings.KeepsDefaults document ↔ ¬ OmitsDefault document) ∧
      (OmitsDefault document → format = .json) := by
  obtain ⟨document, read, decoded⟩ := ofText_eq_ok_iff.mp loaded
  have ordered : document.Ordered := lawful.ordered _ _ _ read
  refine ⟨document, read, ?_, ?_⟩
  · cases document with
    | object entries =>
        have kept := keepsDefaults_of_object ordered decoded
        refine ⟨fun _ => ?_, fun _ => kept⟩
        rintro ⟨_, _, _, listed, _⟩
        cases listed
    | list items => exact keepsDefaults_list_iff decoded
    | _ => cases decoded
  · rintro ⟨_, _, _, rfl, _⟩
    cases format with
    | toml => exact absurd read (lawful.toml_ne_list _ _)
    | json => rfl

/-- A text that gives one schema and nothing else. -/
def schemaSource : String :=
  "\x7b\"databases\": \x7b\"default\": \x7b\"schema\": \"s\"\x7d\x7d\x7d"

theorem keepsDefaults_iff_schema :
    ∃ settings document,
      ofText .standard .json schemaSource = .ok settings ∧
      SettingsReaders.standard.read? .json schemaSource = some document ∧
      settings.databases = [(defaultDatabase, ⟨"sqlite", some "s", []⟩)] ∧
      settings.KeepsDefaults document := by
  have loaded : ofText .standard .json schemaSource =
      .ok ⟨true, "info", [(defaultDatabase, ⟨"sqlite", some "s", []⟩)]⟩ := by
    cbv
  have written : SettingsReaders.standard.read? .json schemaSource =
      some (.object [("databases", .object [("default",
        .object [("schema", .text "s")])])]) := by
    cbv
  obtain ⟨document, read, kept, _⟩ := keepsDefaults_iff .standard
    SettingsReaders.lawful_standard .json schemaSource _ loaded
  cases written.symm.trans read
  refine ⟨_, _, loaded, written, rfl, kept.mpr ?_⟩
  rintro ⟨_, _, _, listed, _⟩
  cases listed

/-- So a text that lists all fields may lose the database that is used when none
is named. -/
theorem not_forall_keepsDefaults :
    ¬ ∀ (format : SettingsFormat) (source : String) (document : Document)
      (settings : Settings),
        SettingsReaders.standard.read? format source = some document →
          ofText .standard format source = .ok settings →
            settings.KeepsDefaults document := by
  intro always
  have kept := always .json "[true, \"info\", \x7b\x7d]"
    (.list [.bool true, .text "info", .object []]) ⟨true, "info", []⟩
    (by cbv) (by cbv)
  obtain ⟨held, configured, _⟩ := kept.default
  cases configured

end Settings

end SqlWeave
