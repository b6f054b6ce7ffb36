import SqlWeave.Settings.Basic

/-!
# Decoded settings

What a document holds if settings are decoded from it.  A record is decoded from
an object, in which fields are found under their names, or from a list of the
fields in the order of their declaration, and from nothing else.
-/

namespace SqlWeave

namespace Decoder

theorem bind_eq_ok {α β : Type} {first : Except ShapeError α}
    {next : α → Except ShapeError β} {result : β} :
    first >>= next = .ok result ↔
      ∃ value, first = .ok value ∧ next value = .ok result := by
  cases first <;> simp [bind, Except.bind]

theorem boolean_bool (value : Bool) : boolean (.bool value) = .ok value := rfl

theorem string_text (value : String) : string (.text value) = .ok value := rfl

theorem eq_bool_of_boolean {document : Document} {value : Bool}
    (decoded : boolean document = .ok value) : document = .bool value := by
  cases document <;> simp_all [boolean, mismatch]

theorem eq_text_of_string {document : Document} {value : String}
    (decoded : string document = .ok value) : document = .text value := by
  cases document <;> simp_all [string, mismatch]

variable {α : Type} {decoder : Decoder α} {name : String}
  {pairs : List (String × Document)}

theorem exists_entries_of_map {document : Document} {values : Entries α}
    (decoded : map decoder document = .ok values) :
    ∃ pairs, document = .object pairs ∧ entries decoder pairs = .ok values := by
  cases document with
  | object pairs => exact ⟨pairs, rfl, decoded⟩
  | _ => cases decoded

/-- Entries are decoded one by one. -/
theorem exists_get?_of_entries {values : Entries α}
    (decoded : entries decoder pairs = .ok values) {document : Document}
    (given : Entries.get? name pairs = some document) :
    ∃ value, decoder document = .ok value ∧
      Entries.get? name values = some value := by
  induction pairs generalizing values with
  | nil => cases given
  | cons pair rest ih =>
      obtain ⟨held, other⟩ := pair
      obtain ⟨first, head, more⟩ := bind_eq_ok.mp decoded
      obtain ⟨others, tail, equal⟩ := bind_eq_ok.mp more
      cases equal
      rw [Entries.get?] at given ⊢
      split at given
      · next same =>
        cases given
        exact ⟨first, head, if_pos same⟩
      · next differs =>
        rw [if_neg differs]
        exact ih tail given

/-- Decoded entries stand under the keys that they are decoded from. -/
theorem keys_of_entries {values : Entries α}
    (decoded : entries decoder pairs = .ok values) :
    values.keys = Entries.keys pairs := by
  induction pairs generalizing values with
  | nil =>
      cases decoded
      rfl
  | cons pair rest ih =>
      obtain ⟨first, _, more⟩ := bind_eq_ok.mp decoded
      obtain ⟨others, tail, equal⟩ := bind_eq_ok.mp more
      cases equal
      exact congrArg (pair.1 :: ·) (ih tail)

/-- What is decoded is decoded from an entry. -/
theorem exists_mem_of_entries {values : Entries α}
    (decoded : entries decoder pairs = .ok values) {value : String × α}
    (member : value ∈ values) :
    ∃ pair ∈ pairs, decoder pair.2 = .ok value.2 := by
  induction pairs generalizing values with
  | nil =>
      cases decoded
      cases member
  | cons pair rest ih =>
      obtain ⟨first, head, more⟩ := bind_eq_ok.mp decoded
      obtain ⟨others, tail, equal⟩ := bind_eq_ok.mp more
      cases equal
      rcases List.mem_cons.mp member with rfl | later
      · exact ⟨pair, List.mem_cons_self, head⟩
      · obtain ⟨other, inside, read⟩ := ih tail later
        exact ⟨other, List.mem_cons_of_mem _ inside, read⟩

theorem get?_eq_none_of_entries {values : Entries α}
    (decoded : entries decoder pairs = .ok values)
    (absent : Entries.get? name pairs = none) :
    Entries.get? name values = none := by
  induction pairs generalizing values with
  | nil =>
      cases decoded
      rfl
  | cons pair rest ih =>
      obtain ⟨held, other⟩ := pair
      obtain ⟨first, _, more⟩ := bind_eq_ok.mp decoded
      obtain ⟨others, tail, equal⟩ := bind_eq_ok.mp more
      cases equal
      rw [Entries.get?] at absent ⊢
      split at absent
      · cases absent
      · next differs =>
        rw [if_neg differs]
        exact ih tail absent

/-- A field that is given is decoded. -/
theorem exists_of_field? {document : Document} {value? : Option α}
    (given : Entries.get? name pairs = some document)
    (decoded : field? decoder name pairs = .ok value?) :
    ∃ value, value? = some value ∧ decoder document = .ok value := by
  simp only [field?, given] at decoded
  cases held : decoder document with
  | ok value =>
      rw [held] at decoded
      cases decoded
      exact ⟨value, rfl, rfl⟩
  | error error =>
      rw [held] at decoded
      cases decoded

/-- A field that must be given is given and decoded. -/
theorem exists_of_required {value? : Option α} {value : α}
    (decoded : field? decoder name pairs = .ok value?)
    (held : required name value? = .ok value) :
    ∃ document, Entries.get? name pairs = some document ∧
      decoder document = .ok value := by
  cases given : Entries.get? name pairs with
  | none =>
      rw [field?, given] at decoded
      cases decoded
      cases held
  | some document =>
      obtain ⟨other, rfl, read⟩ := exists_of_field? given decoded
      cases held
      exact ⟨document, rfl, read⟩

/-- A field that can be decoded is held. -/
theorem field?_eq {document : Document} {value : α}
    (given : Entries.get? name pairs = some document)
    (read : decoder document = .ok value) :
    field? decoder name pairs = .ok (some value) := by
  simp only [field?, given, read]
  rfl

end Decoder

/-! ## Records -/

namespace DatabaseSettings

/-- What an object holds from which the settings of a database are decoded. -/
structure HeldBy (settings : DatabaseSettings)
    (pairs : List (String × Document)) : Prop where
  engine : Entries.get? "engine" pairs = some (.text settings.engine)
  options : ∃ options, Entries.get? "options" pairs = some (.object options) ∧
    Decoder.entries Decoder.string options = .ok settings.options
  /-- A schema may be left out. -/
  schema : Decoder.optionalString
    ((Entries.get? "schema" pairs).getD .null) = .ok settings.schema

theorem heldBy_of_decode {pairs : List (String × Document)}
    {settings : DatabaseSettings}
    (decoded : decode (.object pairs) = .ok settings) :
    settings.HeldBy pairs := by
  rw [decode] at decoded
  obtain ⟨engine?, readEngine, decoded⟩ := Decoder.bind_eq_ok.mp decoded
  obtain ⟨options?, readOptions, decoded⟩ := Decoder.bind_eq_ok.mp decoded
  obtain ⟨schema?, readSchema, decoded⟩ := Decoder.bind_eq_ok.mp decoded
  obtain ⟨engine, heldEngine, decoded⟩ := Decoder.bind_eq_ok.mp decoded
  obtain ⟨options, heldOptions, decoded⟩ := Decoder.bind_eq_ok.mp decoded
  cases decoded
  constructor
  · obtain ⟨document, given, read⟩ :=
      Decoder.exists_of_required readEngine heldEngine
    rw [given, Decoder.eq_text_of_string read]
  · obtain ⟨document, given, read⟩ :=
      Decoder.exists_of_required readOptions heldOptions
    obtain ⟨entries, rfl, each⟩ := Decoder.exists_entries_of_map read
    exact ⟨entries, given, each⟩
  · cases given : Entries.get? "schema" pairs with
    | none =>
        rw [Decoder.field?, given] at readSchema
        cases readSchema
        rfl
    | some document =>
        obtain ⟨schema, rfl, read⟩ := Decoder.exists_of_field? given readSchema
        exact read

theorem decode_of_heldBy {pairs : List (String × Document)}
    {settings : DatabaseSettings} (held : settings.HeldBy pairs) :
    decode (.object pairs) = .ok settings := by
  obtain ⟨engine, ⟨options, given, each⟩, schema⟩ := held
  have read : Decoder.map Decoder.string (.object options) =
      .ok settings.options := each
  rw [decode, Decoder.field?_eq engine (Decoder.string_text _),
    Decoder.field?_eq given read]
  cases found : Entries.get? "schema" pairs with
  | none =>
      rw [found] at schema
      have absent : none = settings.schema := Except.ok.inj schema
      obtain ⟨engine, _, options⟩ := settings
      cases absent
      simp only [Decoder.field?, found]
      rfl
  | some document =>
      rw [found] at schema
      rw [Decoder.field?_eq found schema]
      rfl

/-- A list holds all fields and nothing else. -/
theorem exists_parts_of_decode_list {items : List Document}
    {settings : DatabaseSettings}
    (decoded : decode (.list items) = .ok settings) :
    ∃ engine schema options, items = [engine, schema, options] ∧
      Decoder.string engine = .ok settings.engine ∧
      Decoder.optionalString schema = .ok settings.schema ∧
      Decoder.map Decoder.string options = .ok settings.options := by
  cases items with
  | nil => cases decoded
  | cons engine items =>
      obtain ⟨_, readEngine, decoded⟩ := Decoder.bind_eq_ok.mp decoded
      cases items with
      | nil => cases decoded
      | cons schema items =>
          obtain ⟨_, readSchema, decoded⟩ := Decoder.bind_eq_ok.mp decoded
          cases items with
          | nil => cases decoded
          | cons options items =>
              obtain ⟨_, readOptions, decoded⟩ := Decoder.bind_eq_ok.mp decoded
              cases items with
              | nil =>
                  cases decoded
                  exact ⟨engine, schema, options, rfl, readEngine, readSchema,
                    readOptions⟩
              | cons item items => cases decoded

theorem exists_of_decode_list {items : List Document}
    {settings : DatabaseSettings}
    (decoded : decode (.list items) = .ok settings) :
    ∃ engine schema options, items = [engine, schema, .object options] ∧
      Decoder.entries Decoder.string options = .ok settings.options := by
  obtain ⟨engine, schema, options, rfl, _, _, readOptions⟩ :=
    exists_parts_of_decode_list decoded
  obtain ⟨pairs, rfl, each⟩ := Decoder.exists_entries_of_map readOptions
  exact ⟨engine, schema, pairs, rfl, each⟩

end DatabaseSettings

namespace Settings

/-- What an object holds from which settings are decoded. -/
structure HeldBy (settings : Settings) (pairs : List (String × Document)) :
    Prop where
  debug : Entries.get? "debug" pairs = some (.bool settings.debug)
  logLevel : Entries.get? "log_level" pairs = some (.text settings.logLevel)
  databases : ∃ databases,
    Entries.get? "databases" pairs = some (.object databases) ∧
      Decoder.entries DatabaseSettings.decode databases = .ok settings.databases

theorem heldBy_of_decode {pairs : List (String × Document)}
    {settings : Settings} (decoded : decode (.object pairs) = .ok settings) :
    settings.HeldBy pairs := by
  rw [decode] at decoded
  obtain ⟨databases?, readDatabases, decoded⟩ := Decoder.bind_eq_ok.mp decoded
  obtain ⟨debug?, readDebug, decoded⟩ := Decoder.bind_eq_ok.mp decoded
  obtain ⟨level?, readLevel, decoded⟩ := Decoder.bind_eq_ok.mp decoded
  obtain ⟨debug, heldDebug, decoded⟩ := Decoder.bind_eq_ok.mp decoded
  obtain ⟨level, heldLevel, decoded⟩ := Decoder.bind_eq_ok.mp decoded
  obtain ⟨databases, heldDatabases, decoded⟩ := Decoder.bind_eq_ok.mp decoded
  cases decoded
  constructor
  · obtain ⟨document, given, read⟩ :=
      Decoder.exists_of_required readDebug heldDebug
    rw [given, Decoder.eq_bool_of_boolean read]
  · obtain ⟨document, given, read⟩ :=
      Decoder.exists_of_required readLevel heldLevel
    rw [given, Decoder.eq_text_of_string read]
  · obtain ⟨document, given, read⟩ :=
      Decoder.exists_of_required readDatabases heldDatabases
    obtain ⟨entries, rfl, each⟩ := Decoder.exists_entries_of_map read
    exact ⟨entries, given, each⟩

theorem decode_of_heldBy {pairs : List (String × Document)}
    {settings : Settings} (held : settings.HeldBy pairs) :
    decode (.object pairs) = .ok settings := by
  obtain ⟨debug, level, databases, given, each⟩ := held
  have read : Decoder.map DatabaseSettings.decode (.object databases) =
      .ok settings.databases := each
  rw [decode, Decoder.field?_eq given read, Decoder.field?_eq debug (Decoder.boolean_bool _),
    Decoder.field?_eq level (Decoder.string_text _)]
  rfl

theorem exists_of_decode_list {items : List Document} {settings : Settings}
    (decoded : decode (.list items) = .ok settings) :
    ∃ databases,
      items = [.bool settings.debug, .text settings.logLevel,
        .object databases] ∧
      Decoder.entries DatabaseSettings.decode databases =
        .ok settings.databases := by
  cases items with
  | nil => cases decoded
  | cons first items =>
      obtain ⟨debug, readDebug, decoded⟩ := Decoder.bind_eq_ok.mp decoded
      cases items with
      | nil => cases decoded
      | cons second items =>
          obtain ⟨level, readLevel, decoded⟩ := Decoder.bind_eq_ok.mp decoded
          cases items with
          | nil => cases decoded
          | cons third items =>
              obtain ⟨databases, readDatabases, decoded⟩ :=
                Decoder.bind_eq_ok.mp decoded
              cases items with
              | nil =>
                  cases decoded
                  obtain ⟨pairs, rfl, each⟩ :=
                    Decoder.exists_entries_of_map readDatabases
                  rw [Decoder.eq_bool_of_boolean readDebug,
                    Decoder.eq_text_of_string readLevel]
                  exact ⟨pairs, rfl, each⟩
              | cons item items => cases decoded

end Settings

end SqlWeave
