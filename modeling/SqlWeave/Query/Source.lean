import SqlWeave.Query.Error
import SqlWeave.Query.Syntax

/-!
# Sources and their fields

The fields that a source offers, the sources of a chain, and the aliases that a
source brings into a statement.  A field obtained through an alias belongs to
the alias, whatever the alias renames.
-/

namespace SqlWeave

mutual

/-- The fields of a source in the order of declaration. -/
def Source.fields : Source → List Field
  | .table table => table.fields
  | .aliased renamed => renamed.fields

/-- The fields of an alias, seen through it. -/
def Alias.fields : Alias → List Field
  | ⟨ref, target⟩ => target.fields.map fun field => field.rebind ref

/-- The fields of what an alias renames. -/
def AliasTarget.fields : AliasTarget → List Field
  | .table table => table.fields
  | .join join => join.fields
  | .query select => select.projection

/-- The fields of the sources of a join in the order of the chain. -/
def Join.fields : Join → List Field
  | ⟨left, _, right, _⟩ => left.fields ++ right.fields

/-- The fields of the sources of a chain in their order. -/
def Chain.fields : Chain → List Field
  | .source source => source.fields
  | .join join => join.fields

/-- The fields that a statement selects, with sources expanded. -/
def Select.projection : Select → List Field
  | ⟨items, _, _, _, _, _, _, _⟩ => SelectItem.allFields items

/-- The fields that an item stands for. -/
def SelectItem.fields : SelectItem → List Field
  | .source source => source.fields
  | .field field => [field]

/-- The fields that several items stand for. -/
def SelectItem.allFields : List SelectItem → List Field
  | [] => []
  | item :: rest => item.fields ++ SelectItem.allFields rest

end

mutual

/-- The sources of a chain in their order. -/
def Chain.sources : Chain → List Source
  | .source source => [source]
  | .join join => join.sources

/-- The sources of a join in the order of the chain. -/
def Join.sources : Join → List Source
  | ⟨left, _, right, _⟩ => left.sources ++ [right]

end

mutual

/-- The aliases that a source brings along: itself, and those inside the chain
that it renames. -/
def Source.aliases : Source → List Alias
  | .table _ => []
  | .aliased renamed => renamed :: renamed.nested

/-- The aliases inside the chain that an alias renames, outermost first. -/
def Alias.nested : Alias → List Alias
  | ⟨_, target⟩ => target.nested

/-- The aliases inside what an alias renames.  Those of a sub-query stay in its
own scope. -/
def AliasTarget.nested : AliasTarget → List Alias
  | .table _ => []
  | .join join => join.aliases
  | .query _ => []

/-- The aliases that the sources of a join bring along. -/
def Join.aliases : Join → List Alias
  | ⟨left, _, right, _⟩ => left.aliases ++ right.aliases

/-- The aliases that the sources of a chain bring along. -/
def Chain.aliases : Chain → List Alias
  | .source source => source.aliases
  | .join join => join.aliases

end

namespace Alias

/-- The table that the alias renames, if it renames one. -/
def table? (renamed : Alias) : Option Table :=
  match renamed.target with
  | .table table => some table
  | _ => none

/-- Whether both are the same alias. -/
def sameAs (left right : Alias) : Bool := left.ref.id == right.ref.id

/-- Aliases together with those inside the chains that they rename. -/
def withNested (aliases : List Alias) : List Alias :=
  aliases.flatMap fun renamed => renamed :: renamed.nested

/-- The first field whose label or column name is `label`, seen through the
alias. -/
def field? (renamed : Alias) (label : String) : Option Field :=
  (renamed.target.fields.find? fun field =>
    field.label == label || field.name == label).map
      fun field => field.rebind renamed.ref

end Alias

namespace Source

/-- The source for people to read. -/
def display : Source → String
  | table declared => declared.name
  | aliased renamed => renamed.ref.display

/-- The table behind the source, if it is known. -/
def table? : Source → Option Table
  | table declared => some declared
  | aliased renamed => renamed.table?

/-- The field with this label, seen through the source. -/
def field? (source : Source) (label : String) : Option Field :=
  match source with
  | table declared => declared.field? label
  | aliased renamed => renamed.field? label

/-- The field with this label, or an error that names the source. -/
def field (source : Source) (label : String) : Except QueryError Field :=
  match source.field? label with
  | some field => .ok field
  | none => .error (.unknownAttribute source.display label)

/-- Whether both are the same table or the same alias. -/
def sameAs : Source → Source → Bool
  | table left, table right => left.sameAs right
  | aliased left, aliased right => left.sameAs right
  | _, _ => false

/-- The alias, if the source is one. -/
def alias? : Source → Option Alias
  | table _ => none
  | aliased renamed => some renamed

end Source

namespace Chain

/-- Whether the source stands anywhere in the chain. -/
def contains (chain : Chain) (source : Source) : Bool :=
  chain.sources.any fun held => held.sameAs source

/-- Whether an alias with this identity stands in the chain. -/
def holdsAlias (chain : Chain) (id : AliasId) : Bool :=
  chain.sources.any fun held =>
    match held with
    | .aliased renamed => renamed.ref.id == id
    | .table _ => false

end Chain

namespace SelectItem

/-- The item for people to read. -/
def display : SelectItem → String
  | source held => held.display
  | field column => column.display

/-- The source that the item comes from.  A field obtained through an alias
does not tell which. -/
def source? : SelectItem → Option Source
  | source held => some held
  | field column =>
      if column.binding.isNone then some (.table column.table) else none

/-- Whether the chain holds what the item comes from. -/
def isIn (item : SelectItem) (chain : Chain) : Bool :=
  match item with
  | source held => chain.contains held
  | field column =>
      match column.binding with
      | some ref => chain.holdsAlias ref.id
      | none => chain.contains (.table column.table)

end SelectItem

namespace Select

/-- What the statement selects from: its chain, or else the source of the first
item that has one. -/
def chain? (select : Select) : Option Chain :=
  match select.chain with
  | some chain => some chain
  | none => (select.items.findSome? SelectItem.source?).map .source

/-- The aliases that the statement registers, in order: those among its items
first, then those of its chain. -/
def aliases (select : Select) : List Alias :=
  select.items.flatMap (fun item =>
    match item with
    | .source source => source.aliases
    | .field _ => []) ++
  match select.chain? with
  | some chain => chain.aliases
  | none => []

/-- The first item whose source the chain does not hold. -/
def missingItem? (select : Select) (chain : Chain) : Option SelectItem :=
  select.items.find? fun item => !item.isIn chain

end Select

end SqlWeave
