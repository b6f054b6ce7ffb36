/-!
# Documents

A document is a tree of plain data: the values that configuration files and
tagged constants are written as.  The entries of an object are kept in the
order of their keys, each key once.
-/

namespace SqlWeave

/-- Values under text keys, in the order of the keys. -/
abbrev Entries (α : Type) := List (String × α)

namespace Entries

variable {α : Type}

/-- The value under a key. -/
def get? (key : String) : Entries α → Option α
  | [] => none
  | (held, value) :: rest => if held = key then some value else get? key rest

/-- Set the value under a key; a new key goes before the first greater one. -/
def put (key : String) (value : α) : Entries α → Entries α
  | [] => [(key, value)]
  | (held, old) :: rest =>
      if held = key then (key, value) :: rest
      else if key < held then (key, value) :: (held, old) :: rest
      else (held, old) :: put key value rest

/-- Collect pairs into entries; of two values under one key the later wins. -/
def ofPairs (pairs : List (String × α)) : Entries α :=
  pairs.foldl (fun entries pair => put pair.1 pair.2 entries) []

/-- The keys in their order. -/
def keys (entries : Entries α) : List String := entries.map (·.1)

/-- A key reads back what was put under it. -/
theorem get?_put_self (key : String) (value : α) (entries : Entries α) :
    get? key (put key value entries) = some value := by
  induction entries with
  | nil => simp [put, get?]
  | cons pair rest ih =>
      obtain ⟨held, old⟩ := pair
      by_cases same : held = key
      · simp [put, get?, same]
      · by_cases before : key < held
        · simp [put, get?, same, before]
        · simp [put, get?, same, before, ih]

/-- Putting a value leaves every other key alone. -/
theorem get?_put_of_ne {key other : String} (differs : other ≠ key)
    (value : α) (entries : Entries α) :
    get? other (put key value entries) = get? other entries := by
  induction entries with
  | nil => simp [put, get?, Ne.symm differs]
  | cons pair rest ih =>
      obtain ⟨held, old⟩ := pair
      by_cases same : held = key
      · subst same
        simp [put, get?, Ne.symm differs]
      · by_cases before : key < held
        · simp [put, get?, same, before, Ne.symm differs]
        · simp [put, get?, same, before, ih]

end Entries

/-- Plain data.  Whole numbers and doubles are told apart. -/
inductive Document where
  | null
  | bool (value : Bool)
  | int (value : Int)
  | float (value : Float)
  | text (value : String)
  | list (items : List Document)
  | object (entries : List (String × Document))
  deriving Inhabited

namespace Document

/-- The value under a key of an object. -/
def get? (key : String) : Document → Option Document
  | object entries => Entries.get? key entries
  | _ => none

/-- An object with the given pairs. -/
def ofPairs (pairs : List (String × Document)) : Document :=
  object (Entries.ofPairs pairs)

end Document

end SqlWeave
