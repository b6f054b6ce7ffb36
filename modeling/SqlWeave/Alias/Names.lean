import SqlWeave.Event
import SqlWeave.Query.Error

/-!
# Names of aliases

The names that the aliases of one scope go by.  An alias without a name of its
own gets the first of `t1`, `t2`, … that is neither assigned in the scope nor
reserved for it.  Two aliases of a scope never share a name, and an alias never
gets a second one.
-/

namespace SqlWeave

/-- The names of one scope. -/
structure AliasNames where
  /-- The aliases with their names, in the order of registration. -/
  assigned : List (AliasId × String)
  /-- Names that must not be generated. -/
  reserved : List String
  deriving DecidableEq, Repr

namespace AliasNames

/-- A scope without names. -/
def empty : AliasNames := ⟨[], []⟩

/-- A scope that generates none of the given names. -/
def reserving (names : List String) : AliasNames := ⟨[], names⟩

/-- The name of an alias. -/
def nameOf? (names : AliasNames) (id : AliasId) : Option String :=
  names.assigned.lookup id

/-- The assigned names in the order of registration. -/
def assignedNames (names : AliasNames) : List String :=
  names.assigned.map (·.2)

/-- Whether an alias goes by this name. -/
def contains (names : AliasNames) (name : String) : Bool :=
  names.assignedNames.contains name

/-- The number of registered aliases. -/
def size (names : AliasNames) : Nat := names.assigned.length

/-- The names that cannot be generated any more. -/
def taken (names : AliasNames) : List String :=
  names.assignedNames ++ names.reserved

/-- The generated name with this number. -/
def generated (number : Nat) : String := "t" ++ toString number

/-- The first number from `number` on whose generated name is not taken, if
there is one within `count` steps, and the number after them otherwise. -/
def firstFree (taken : List String) : Nat → Nat → Nat
  | 0, number => number
  | count + 1, number =>
      if taken.contains (generated number) then
        firstFree taken count (number + 1)
      else number

/-- The first generated name that is not taken.  As many numbers as there are
taken names are tried: if all of those are taken, the next one is free. -/
def freeName (names : AliasNames) : String :=
  generated (firstFree names.taken names.taken.length 1)

/-- A scope after an attempt to register aliases.  Aliases registered before a
failure stay registered. -/
structure Registration where
  names : AliasNames
  events : List Event
  failure : Option QueryError
  deriving DecidableEq, Repr

/-- Register an alias, unless it is registered already. -/
def register (names : AliasNames) (ref : AliasRef) : Registration :=
  match names.nameOf? ref.id with
  | some _ => ⟨names, [], none⟩
  | none =>
      let name := ref.name.getD names.freeName
      if names.contains name then ⟨names, [], some (.duplicateAlias name)⟩
      else
        ⟨{ names with assigned := names.assigned ++ [(ref.id, name)] },
          [.registered name ref.id], none⟩

/-- Register aliases in order, up to the first failure. -/
def registerAll (names : AliasNames) : List AliasRef → Registration
  | [] => ⟨names, [], none⟩
  | ref :: rest =>
      let first := names.register ref
      match first.failure with
      | some _ => first
      | none =>
          let others := first.names.registerAll rest
          { others with events := first.events ++ others.events }

end AliasNames

end SqlWeave
