import SqlWeave.Proofs.Document.Printing
import SqlWeave.Proofs.Settings.Decoding
import SqlWeave.Proofs.Settings.Readers

/-!
# Saved settings

Settings that are saved as JSON are laid over the standard ones when they are
loaded again.  Every field is saved, an absent schema as `null`, so nothing of
the standard settings shows through but the database that is used when none is
named, and that only if it was not saved (`Settings.saved_loads`).  That names
stand in order, each once, holds of all settings that are loaded
(`Settings.tabled_of_ofText`).
-/

namespace SqlWeave

namespace Entries

variable {α β : Type} {entries : Entries α}

theorem get?_map (write : α → β) (key : String) (entries : Entries α) :
    get? key (entries.map fun pair => (pair.1, write pair.2)) =
      (get? key entries).map write := by
  induction entries with
  | nil => rfl
  | cons pair rest ih =>
      obtain ⟨held, value⟩ := pair
      rw [List.map_cons, get?, get?, ih]
      split <;> rfl

/-- Entries are in order if their keys are. -/
theorem sorted_of_keys (ordered : entries.keys.Pairwise (· < ·)) :
    entries.Sorted :=
  List.pairwise_map.mp ordered

theorem Sorted.map (sorted : entries.Sorted) (write : α → β) :
    Sorted (entries.map fun pair => (pair.1, write pair.2)) :=
  List.pairwise_map.mpr sorted

end Entries

/-- Values that can be read again are read under their keys. -/
theorem Decoder.entries_map {α : Type} {decoder : Decoder α}
    {write : α → Document} {values : Entries α}
    (each : ∀ pair ∈ values, decoder (write pair.2) = .ok pair.2) :
    entries decoder (values.map fun pair => (pair.1, write pair.2)) =
      .ok values := by
  induction values with
  | nil => rfl
  | cons pair rest ih =>
      obtain ⟨head, others⟩ := List.forall_mem_cons.mp each
      rw [List.map_cons, entries, head, ih others]
      rfl

/-- Entries are in order if those are that they are decoded from. -/
theorem Decoder.sorted_of_entries {α : Type} {decoder : Decoder α}
    {pairs : List (String × Document)} {values : Entries α}
    (sorted : Entries.Sorted pairs)
    (decoded : entries decoder pairs = .ok values) : values.Sorted := by
  refine Entries.sorted_of_keys ?_
  rw [keys_of_entries decoded]
  exact List.pairwise_map.mpr sorted

namespace DatabaseSettings

theorem sorted_options_of_decode {document : Document}
    (ordered : document.Ordered) {settings : DatabaseSettings}
    (decoded : decode document = .ok settings) : settings.options.Sorted := by
  cases ordered with
  | @object pairs sorted each =>
      obtain ⟨options, given, read⟩ := (heldBy_of_decode decoded).options
      obtain _ | _ | _ | _ | _ | _ | ⟨inside, _⟩ :=
        each _ (Entries.mem_of_get? given)
      exact Decoder.sorted_of_entries inside read
  | @list items each =>
      obtain ⟨engine, schema, options, rfl, read⟩ :=
        exists_of_decode_list decoded
      obtain _ | _ | _ | _ | _ | _ | ⟨inside, _⟩ :=
        each (.object options) (by simp)
      exact Decoder.sorted_of_entries inside read
  | _ => cases decoded

/-- Settings of a database are read back from the document that they are saved
as. -/
theorem decode_toDocument (settings : DatabaseSettings) :
    decode settings.toDocument = .ok settings := by
  refine decode_of_heldBy ⟨rfl, ⟨_, rfl, Decoder.entries_map ?_⟩, ?_⟩
  · exact fun pair _ => Decoder.string_text pair.2
  · obtain ⟨engine, schema, options⟩ := settings
    cases schema <;> rfl

/-- Saved settings of a database say all that the standard ones do. -/
theorem merge_standard (settings : DatabaseSettings)
    (sorted : settings.options.Sorted) :
    standard.toDocument.merge settings.toDocument = settings.toDocument := by
  have options := Document.nil_mergeEntries (sorted.map Document.text)
  obtain ⟨engine, schema, options⟩ := settings
  cases schema <;>
    simp only [standard, toDocument, List.map_nil, Document.merge,
      Document.mergeEntries, Entries.get?, Entries.put, String.reduceEq,
      String.reduceLT, ↓reduceIte, options]

end DatabaseSettings

namespace Settings

/-- Databases and options stand in the order of their names, each name once. -/
structure Tabled (settings : Settings) : Prop where
  databases : settings.databases.Sorted
  options : ∀ entry ∈ settings.databases, entry.2.options.Sorted

theorem tabled_of_entries {settings : Settings}
    {pairs : List (String × Document)}
    (ordered : (Document.object pairs).Ordered)
    (decoded : Decoder.entries DatabaseSettings.decode pairs =
      .ok settings.databases) : settings.Tabled := by
  obtain _ | _ | _ | _ | _ | _ | ⟨sorted, each⟩ := ordered
  refine ⟨Decoder.sorted_of_entries sorted decoded, ?_⟩
  intro entry member
  obtain ⟨pair, inside, read⟩ := Decoder.exists_mem_of_entries decoded member
  exact DatabaseSettings.sorted_options_of_decode (each pair inside) read

theorem tabled_of_decode {document : Document} (ordered : document.Ordered)
    {settings : Settings} (decoded : decode document = .ok settings) :
    settings.Tabled := by
  cases ordered with
  | @object pairs sorted each =>
      obtain ⟨databases, given, read⟩ := (heldBy_of_decode decoded).databases
      exact tabled_of_entries (each _ (Entries.mem_of_get? given)) read
  | @list items each =>
      obtain ⟨databases, rfl, read⟩ := exists_of_decode_list decoded
      exact tabled_of_entries (each (.object databases) (by simp)) read
  | _ => cases decoded

/-- The settings with the database that is used when none is named; if it is
missing it is the standard one. -/
def completed (settings : Settings) : Settings :=
  match settings.database? defaultDatabase with
  | some _ => settings
  | none =>
      { settings with
        databases :=
          Entries.put defaultDatabase .standard settings.databases }

theorem database?_completed (settings : Settings) (name : String) :
    settings.completed.database? name =
      if name = defaultDatabase then
        some ((settings.database? name).getD .standard)
      else settings.database? name := by
  rw [completed]
  split
  · next held found =>
    split
    · next same =>
      rw [same, found, Option.getD_some]
    · rfl
  · next missing =>
    split
    · next same =>
      rw [same, missing, Option.getD_none]
      exact Entries.get?_put_self _ _ _
    · next differs => exact Entries.get?_put_of_ne differs _ _

theorem debug_completed (settings : Settings) :
    settings.completed.debug = settings.debug := by
  rw [completed]
  split <;> rfl

theorem logLevel_completed (settings : Settings) :
    settings.completed.logLevel = settings.logLevel := by
  rw [completed]
  split <;> rfl

theorem sorted_completed {settings : Settings} (tabled : settings.Tabled) :
    settings.completed.databases.Sorted := by
  rw [completed]
  split
  · exact tabled.databases
  · exact tabled.databases.put _ _

/-- The databases as they are saved. -/
def saved (settings : Settings) : List (String × Document) :=
  settings.databases.map fun pair => (pair.1, pair.2.toDocument)

theorem get?_saved (settings : Settings) (name : String) :
    Entries.get? name settings.saved =
      (settings.database? name).map DatabaseSettings.toDocument :=
  Entries.get?_map _ _ _

/-- Of the standard databases only one that is missing shows through. -/
theorem mergeEntries_saved {settings : Settings} (tabled : settings.Tabled) :
    Document.mergeEntries standard.saved settings.saved =
      settings.completed.saved := by
  have lower : Entries.Sorted standard.saved := List.pairwise_singleton _ _
  have upper : Entries.Sorted settings.saved := tabled.databases.map _
  have whole : Entries.Sorted settings.completed.saved :=
    (sorted_completed tabled).map _
  refine (Document.sorted_mergeEntries lower).ext whole ?_
  intro name
  have standing : Entries.get? name standard.saved =
      if defaultDatabase = name then
        some DatabaseSettings.standard.toDocument
      else none := rfl
  have given := settings.get?_saved name
  rw [get?_saved, database?_completed]
  cases found : settings.database? name with
  | none =>
      rw [found] at given
      rw [Document.get?_mergeEntries_of_none given, standing]
      by_cases same : name = defaultDatabase
      · rw [if_pos same.symm, if_pos same]
        rfl
      · rw [if_neg (Ne.symm same), if_neg same]
        rfl
  | some held =>
      rw [found] at given
      rw [Document.get?_mergeEntries_of_some upper given, standing]
      by_cases same : name = defaultDatabase
      · have options := tabled.options _ (Entries.mem_of_get? found)
        rw [if_pos same.symm, if_pos same]
        exact congrArg some (held.merge_standard options)
      · rw [if_neg (Ne.symm same), if_neg same]
        rfl

/-- Only the databases are merged; of the logging, what is saved is taken. -/
theorem merge_toDocument (settings : Settings) :
    standard.toDocument.merge settings.toDocument =
      .object
        [("databases",
            .object (Document.mergeEntries standard.saved settings.saved)),
          ("debug", .bool settings.debug),
          ("log_level", .text settings.logLevel)] := by
  simp only [toDocument, saved, Document.merge, Document.mergeEntries,
    Entries.get?, Entries.put, String.reduceEq, String.reduceLT, ↓reduceIte]

theorem ofDocument_toDocument {settings : Settings}
    (tabled : settings.Tabled) :
    ofDocument settings.toDocument = .ok settings.completed := by
  rw [ofDocument, merge_toDocument, mergeEntries_saved tabled,
    ← debug_completed, ← logLevel_completed]
  exact decode_of_heldBy ⟨rfl, rfl, _, rfl,
    Decoder.entries_map fun pair _ => pair.2.decode_toDocument⟩

end Settings

/-! ## Saved texts -/

theorem DatabaseSettings.plain_toDocument (settings : DatabaseSettings)
    (sorted : settings.options.Sorted) (depth : Nat) :
    settings.toDocument.Plain (depth + 2) := by
  have ordered : ["engine", "options", "schema"].Pairwise (· < ·) := by decide
  refine .object (Entries.sorted_of_keys ordered) ?_
  simp only [List.forall_mem_cons]
  refine ⟨.text _, .object (sorted.map _) ?_, ?_, List.forall_mem_nil _⟩
  · rintro entry member
    obtain ⟨pair, _, rfl⟩ := List.mem_map.mp member
    exact .text _
  · cases settings.schema with
    | none => exact .null
    | some schema => exact .text schema

namespace Settings

/-- Settings are saved without numbers, and not nested deeply. -/
theorem plain_toDocument {settings : Settings} (tabled : settings.Tabled)
    (depth : Nat) : settings.toDocument.Plain (depth + 4) := by
  have ordered : ["databases", "debug", "log_level"].Pairwise (· < ·) := by
    decide
  refine .object (Entries.sorted_of_keys ordered) ?_
  simp only [List.forall_mem_cons]
  refine ⟨.object (tabled.databases.map _) ?_, .bool _, .text _,
    List.forall_mem_nil _⟩
  rintro entry member
  obtain ⟨pair, inside, rfl⟩ := List.mem_map.mp member
  exact pair.2.plain_toDocument (tabled.options pair inside) depth

theorem tabled_standard : standard.Tabled := by
  constructor
  · exact List.pairwise_singleton _ _
  · intro entry member
    rw [List.mem_singleton.mp member]
    exact List.Pairwise.nil

/-- All settings that are loaded are tabled. -/
theorem tabled_of_ofText {readers : SettingsReaders} (lawful : readers.Lawful)
    {format : SettingsFormat} {source : String} {settings : Settings}
    (loaded : ofText readers format source = .ok settings) :
    settings.Tabled := by
  obtain ⟨document, read, decoded⟩ := ofText_eq_ok_iff.mp loaded
  have ordered : document.Ordered := lawful.ordered _ _ _ read
  have below : standard.toDocument.Ordered :=
    (plain_toDocument tabled_standard 0).ordered
  exact tabled_of_decode (below.merge ordered) decoded

/-- The JSON text that settings are saved as reads as their document.  From
every text that is read so, by whatever readers, settings are loaded with the
same logging and the same databases, and with the standard one as the one that is
used when none is named, unless that one was saved. -/
theorem saved_loads (settings : Settings) (tabled : settings.Tabled) :
    Document.Json.read? settings.toDocument.render =
      some settings.toDocument ∧
    ∀ (readers : SettingsReaders) (source : String),
      readers.json source = some settings.toDocument →
      ∃ loaded, ofText readers .json source = .ok loaded ∧
        loaded.debug = settings.debug ∧
        loaded.logLevel = settings.logLevel ∧
        (∀ held, settings.database? defaultDatabase = some held →
          loaded.databases = settings.databases) ∧
        (settings.database? defaultDatabase = none →
          loaded.databases =
            Entries.put defaultDatabase .standard settings.databases) ∧
        ∀ name, loaded.database? name =
          if name = defaultDatabase then
            some ((settings.database? name).getD .standard)
          else settings.database? name := by
  refine ⟨Document.Json.read?_render (plain_toDocument tabled 123), ?_⟩
  intro readers source read
  refine ⟨settings.completed, ?_, settings.debug_completed,
    settings.logLevel_completed, ?_, ?_, settings.database?_completed⟩
  · exact ofText_eq_ok_iff.mpr ⟨_, read, ofDocument_toDocument tabled⟩
  · intro held found
    rw [completed, found]
  · intro missing
    rw [completed, missing]

/-- Settings without a database that is used when none is named, and with a
quote and a line break in an option. -/
def reporting : Settings :=
  ⟨false, "warn", [("reports", ⟨"mysql", none, [("host", "\"a\"\n")]⟩)]⟩

theorem saved_loads_reporting :
    reporting.Tabled ∧
    ∃ loaded,
      ofText .standard .json reporting.toDocument.render = .ok loaded ∧
      loaded.databases =
        (defaultDatabase, .standard) :: reporting.databases := by
  have tabled : reporting.Tabled := by
    constructor
    · exact List.pairwise_singleton _ _
    · intro entry member
      rw [List.mem_singleton.mp member]
      exact List.pairwise_singleton _ _
  obtain ⟨read, loads⟩ := saved_loads reporting tabled
  have reader : SettingsReaders.standard.json = Document.Json.read? := rfl
  rw [← reader] at read
  obtain ⟨loaded, succeeds, _, _, _, missing, _⟩ := loads _ _ read
  refine ⟨tabled, loaded, succeeds, ?_⟩
  rw [missing rfl]
  decide

end Settings

end SqlWeave
