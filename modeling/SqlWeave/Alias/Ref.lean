/-!
# References to aliases

An alias has an identity of its own: two aliases of one table are different,
and every copy of an alias is the same alias.  A reference to an alias is its
identity with the name it was given, if it was given one.
-/

namespace SqlWeave

/-- The identity of an alias. -/
structure AliasId where
  number : Nat
  deriving DecidableEq, Repr, Inhabited

/-- The identity as it is shown to people. -/
def AliasId.display (id : AliasId) : String :=
  "alias #" ++ toString id.number

/-- An alias as its fields refer to it.  Without a name, one is chosen when a
statement is compiled. -/
structure AliasRef where
  id : AliasId
  name : Option String
  deriving DecidableEq, Repr, Inhabited

/-- The name of the alias, or its identity if it has no name. -/
def AliasRef.display (ref : AliasRef) : String :=
  ref.name.getD ref.id.display

/-- The identities that are still to be handed out. -/
structure AliasSupply where
  next : Nat
  deriving Repr

namespace AliasSupply

/-- The supply that starts with the first identity. -/
def start : AliasSupply := ⟨1⟩

/-- Hand out an identity that was not handed out before. -/
def fresh (supply : AliasSupply) : AliasId × AliasSupply :=
  (⟨supply.next⟩, ⟨supply.next + 1⟩)

end AliasSupply

end SqlWeave
