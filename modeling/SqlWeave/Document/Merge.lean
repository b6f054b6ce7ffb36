import SqlWeave.Document.Basic

/-!
# Merging documents

A document laid over another one takes precedence.  Where both hold objects
they are merged key by key; everywhere else the upper document replaces the
lower one as a whole.
-/

namespace SqlWeave.Document

mutual

/-- Lay `upper` over `lower`. -/
def merge (lower upper : Document) : Document :=
  match upper with
  | object changes =>
      match lower with
      | object entries => object (mergeEntries entries changes)
      | _ => object changes
  | null => null
  | bool value => bool value
  | int value => int value
  | float value => float value
  | text value => text value
  | list items => list items

/-- Lay the entries of one object over those of another. -/
def mergeEntries (entries : List (String × Document)) :
    List (String × Document) → List (String × Document)
  | [] => entries
  | (key, change) :: rest =>
      let merged :=
        match Entries.get? key entries with
        | some held => merge held change
        | none => change
      mergeEntries (Entries.put key merged entries) rest

end

end SqlWeave.Document
