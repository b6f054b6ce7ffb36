import SqlWeave.Proofs.Toml.Tables
import SqlWeave.Settings.Load

/-!
# Readers of settings

What is proved of loaded settings depends on little of the readers: the keys of
every object stand in order, each once, and TOML has no document that is a list
(`SettingsReaders.Lawful`).
-/

namespace SqlWeave

/-- All documents that are read are ordered, and those of TOML are no lists. -/
structure SettingsReaders.Lawful (readers : SettingsReaders) : Prop where
  ordered : ∀ format source document,
    readers.read? format source = some document → document.Ordered
  toml_ne_list : ∀ source items, readers.toml source ≠ some (.list items)

theorem SettingsReaders.lawful_standard : standard.Lawful where
  ordered format source document read := by
    cases format with
    | toml => exact (Toml.ordered_of_read? read).1
    | json => exact Document.Json.ordered_of_read? read
  toml_ne_list source items read := (Toml.ordered_of_read? read).2 items rfl

/-- Errors keep being errors when their kind changes. -/
theorem mapError_eq_ok_iff {ε δ α : Type} {result : Except ε α}
    {change : ε → δ} {value : α} :
    result.mapError change = .ok value ↔ result = .ok value := by
  constructor
  · intro kept
    cases result with
    | error failure => cases kept
    | ok other =>
        cases kept
        rfl
  · rintro rfl
    rfl

theorem Settings.ofText_eq_ok_iff {readers : SettingsReaders}
    {format : SettingsFormat} {source : String} {settings : Settings} :
    ofText readers format source = .ok settings ↔
      ∃ document, readers.read? format source = some document ∧
        ofDocument document = .ok settings := by
  rw [ofText]
  cases readers.read? format source with
  | none => simp
  | some document => simp [mapError_eq_ok_iff]

end SqlWeave
