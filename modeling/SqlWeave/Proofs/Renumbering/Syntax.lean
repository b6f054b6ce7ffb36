import Mathlib.Logic.Function.Basic
import SqlWeave.Compile.Database
import SqlWeave.Proofs.Alias.Scopes
import SqlWeave.Proofs.Script.Compiled

/-!
# Renumbered statements

Aliases are numbered in the order of their creation, so the same statement may
be built with other numbers.  This module renumbers all aliases of a statement,
wherever they stand and wherever a column is seen through them, and shows that
whatever is asked of the statement before it is written is answered alike: its
fields, sources and aliases are the same ones under the new numbers, and its
checks have the same result as long as different aliases get different numbers.
-/

namespace SqlWeave

/-- The reference to an alias under its new number. -/
def AliasRef.renumber (number : AliasId → AliasId) (ref : AliasRef) :
    AliasRef :=
  { ref with id := number ref.id }

/-- The column, seen through an alias under its new number. -/
def Field.renumber (number : AliasId → AliasId) (field : Field) : Field :=
  { field with binding := field.binding.map (AliasRef.renumber number) }

mutual

/-- The expression with all aliases renumbered. -/
def Expr.renumber (number : AliasId → AliasId) : Expr → Expr
  | .value constant => .value constant
  | .field field => .field (field.renumber number)
  | .query select => .query (select.renumber number)
  | .unary operator operand => .unary operator (operand.renumber number)
  | .binary operator left right =>
      .binary operator (left.renumber number) (right.renumber number)

/-- The statement with all aliases renumbered. -/
def Select.renumber (number : AliasId → AliasId) : Select → Select
  | ⟨items, chain, filter, ordering, limit, offset, distinct, forUpdate⟩ =>
      ⟨SelectItem.renumberAll number items,
        match chain with
        | some chain => some (chain.renumber number)
        | none => none,
        filter.renumber number, OrderTerm.renumberAll number ordering, limit,
        offset, distinct, forUpdate⟩

/-- The item with all aliases renumbered. -/
def SelectItem.renumber (number : AliasId → AliasId) : SelectItem → SelectItem
  | .source source => .source (source.renumber number)
  | .field field => .field (field.renumber number)

/-- The items with all aliases renumbered. -/
def SelectItem.renumberAll (number : AliasId → AliasId) :
    List SelectItem → List SelectItem
  | [] => []
  | item :: rest => item.renumber number :: SelectItem.renumberAll number rest

/-- The term with all aliases renumbered. -/
def OrderTerm.renumber (number : AliasId → AliasId) : OrderTerm → OrderTerm
  | ⟨expr, direction, nulls⟩ => ⟨expr.renumber number, direction, nulls⟩

/-- The terms with all aliases renumbered. -/
def OrderTerm.renumberAll (number : AliasId → AliasId) :
    List OrderTerm → List OrderTerm
  | [] => []
  | term :: rest => term.renumber number :: OrderTerm.renumberAll number rest

/-- The chain with all aliases renumbered. -/
def Chain.renumber (number : AliasId → AliasId) : Chain → Chain
  | .source source => .source (source.renumber number)
  | .join join => .join (join.renumber number)

/-- The join with all aliases renumbered. -/
def Join.renumber (number : AliasId → AliasId) : Join → Join
  | ⟨left, kind, right, predicate⟩ =>
      ⟨left.renumber number, kind, right.renumber number,
        match predicate with
        | some predicate => some (predicate.renumber number)
        | none => none⟩

/-- The source with all aliases renumbered. -/
def Source.renumber (number : AliasId → AliasId) : Source → Source
  | .table table => .table table
  | .aliased renamed => .aliased (renamed.renumber number)

/-- The alias under its new number, with all aliases in it renumbered. -/
def Alias.renumber (number : AliasId → AliasId) : Alias → Alias
  | ⟨ref, target⟩ => ⟨ref.renumber number, target.renumber number⟩

/-- What an alias renames, with all aliases renumbered. -/
def AliasTarget.renumber (number : AliasId → AliasId) :
    AliasTarget → AliasTarget
  | .table table => .table table
  | .join join => .join (join.renumber number)
  | .query select => .query (select.renumber number)

end

mutual

/-- The operand with all aliases renumbered. -/
def Operand.renumber (number : AliasId → AliasId) : Operand → Operand
  | .select select => .select (select.renumber number)
  | .compound compound => .compound (compound.renumber number)

/-- The compound statement with all aliases renumbered. -/
def Compound.renumber (number : AliasId → AliasId) : Compound → Compound
  | ⟨left, operator, right, ordering, limit, offset⟩ =>
      ⟨left.renumber number, operator, right.renumber number,
        OrderTerm.renumberAll number ordering, limit, offset⟩

end

/-- The node with all aliases renumbered. -/
def Node.renumber (number : AliasId → AliasId) : Node → Node
  | keyword word => keyword word
  | path name => path name
  | value constant => value constant
  | table declared => table declared
  | aliased renamed => aliased (renamed.renumber number)
  | join chain => join (chain.renumber number)
  | field column => field (column.renumber number)
  | expr held => expr (held.renumber number)
  | term ordered => term (ordered.renumber number)
  | select query => select (query.renumber number)
  | compound query => compound (query.renumber number)

variable (number : AliasId → AliasId)

theorem SelectItem.renumberAll_eq_map (items : List SelectItem) :
    renumberAll number items = items.map (renumber number) := by
  induction items with
  | nil => rfl
  | cons item rest ih => rw [renumberAll, ih, List.map_cons]

/-! ## Fields -/

/-- The columns of a table are seen through no alias. -/
theorem Table.map_renumber_fields (table : Table) :
    table.fields.map (Field.renumber number) = table.fields := by
  rw [fields, List.map_map]
  rfl

mutual

theorem Source.fields_renumber : (source : Source) →
    (source.renumber number).fields =
      source.fields.map (Field.renumber number)
  | .table table => (table.map_renumber_fields number).symm
  | .aliased renamed => Alias.fields_renumber renamed

theorem Alias.fields_renumber : (renamed : Alias) →
    (renamed.renumber number).fields =
      renamed.fields.map (Field.renumber number)
  | ⟨ref, target⟩ => by
      rw [Alias.renumber, Alias.fields, Alias.fields,
        AliasTarget.fields_renumber target, List.map_map, List.map_map]
      rfl

theorem AliasTarget.fields_renumber : (target : AliasTarget) →
    (target.renumber number).fields =
      target.fields.map (Field.renumber number)
  | .table table => (table.map_renumber_fields number).symm
  | .join join => Join.fields_renumber join
  | .query select => Select.projection_renumber select

theorem Join.fields_renumber : (join : Join) →
    (join.renumber number).fields = join.fields.map (Field.renumber number)
  | ⟨left, kind, right, predicate⟩ => by
      unfold Join.renumber
      rw [Join.fields, Join.fields, List.map_append,
        Chain.fields_renumber left, Source.fields_renumber right]

theorem Chain.fields_renumber : (chain : Chain) →
    (chain.renumber number).fields = chain.fields.map (Field.renumber number)
  | .source source => Source.fields_renumber source
  | .join join => Join.fields_renumber join

theorem Select.projection_renumber : (select : Select) →
    (select.renumber number).projection =
      select.projection.map (Field.renumber number)
  | ⟨items, chain, filter, ordering, limit, offset, distinct, forUpdate⟩ => by
      unfold Select.renumber
      rw [Select.projection, Select.projection]
      exact SelectItem.allFields_renumberAll items

theorem SelectItem.allFields_renumberAll : (items : List SelectItem) →
    SelectItem.allFields (SelectItem.renumberAll number items) =
      (SelectItem.allFields items).map (Field.renumber number)
  | [] => rfl
  | .source source :: rest => by
      rw [SelectItem.renumberAll, SelectItem.renumber, SelectItem.allFields,
        SelectItem.allFields, List.map_append,
        SelectItem.allFields_renumberAll rest, SelectItem.fields,
        SelectItem.fields, Source.fields_renumber source]
  | .field field :: rest => by
      rw [SelectItem.renumberAll, SelectItem.renumber, SelectItem.allFields,
        SelectItem.allFields, List.map_append,
        SelectItem.allFields_renumberAll rest]
      rfl

end

/-! ## Sources and aliases -/

mutual

theorem Chain.sources_renumber : (chain : Chain) →
    (chain.renumber number).sources =
      chain.sources.map (Source.renumber number)
  | .source _ => rfl
  | .join join => Join.sources_renumber join

theorem Join.sources_renumber : (join : Join) →
    (join.renumber number).sources =
      join.sources.map (Source.renumber number)
  | ⟨left, kind, right, predicate⟩ => by
      unfold Join.renumber
      rw [Join.sources, Join.sources, List.map_append,
        Chain.sources_renumber left]
      rfl

end

mutual

theorem Source.aliases_renumber : (source : Source) →
    (source.renumber number).aliases =
      source.aliases.map (Alias.renumber number)
  | .table _ => rfl
  | .aliased renamed => by
      rw [Source.renumber, Source.aliases, Source.aliases, List.map_cons,
        Alias.nested_renumber renamed]

theorem Alias.nested_renumber : (renamed : Alias) →
    (renamed.renumber number).nested =
      renamed.nested.map (Alias.renumber number)
  | ⟨_, target⟩ => AliasTarget.nested_renumber target

theorem AliasTarget.nested_renumber : (target : AliasTarget) →
    (target.renumber number).nested =
      target.nested.map (Alias.renumber number)
  | .table _ => rfl
  | .join join => Join.aliases_renumber join
  | .query _ => rfl

theorem Join.aliases_renumber : (join : Join) →
    (join.renumber number).aliases =
      join.aliases.map (Alias.renumber number)
  | ⟨left, kind, right, predicate⟩ => by
      unfold Join.renumber
      rw [Join.aliases, Join.aliases, List.map_append,
        Chain.aliases_renumber left, Source.aliases_renumber right]

theorem Chain.aliases_renumber : (chain : Chain) →
    (chain.renumber number).aliases =
      chain.aliases.map (Alias.renumber number)
  | .source source => Source.aliases_renumber source
  | .join join => Join.aliases_renumber join

end

theorem Alias.ref_renumber (renamed : Alias) :
    (renamed.renumber number).ref = renamed.ref.renumber number := by
  cases renamed
  rfl

/-! ## The target of a statement -/

namespace SelectItem

theorem source?_renumber (item : SelectItem) :
    (item.renumber number).source? =
      item.source?.map (Source.renumber number) := by
  cases item with
  | source held => rfl
  | field column =>
      rw [renumber, source?, source?, Field.renumber, Option.isNone_map]
      cases column.binding.isNone <;> rfl

theorem aliases_renumber (item : SelectItem) :
    (item.renumber number).aliases =
      item.aliases.map (Alias.renumber number) := by
  cases item with
  | source held => exact held.aliases_renumber number
  | field column => rfl

end SelectItem

namespace Select

variable (select : Select)

theorem items_renumber : (select.renumber number).items =
    select.items.map (SelectItem.renumber number) := by
  cases select
  exact SelectItem.renumberAll_eq_map number _

theorem chain_renumber : (select.renumber number).chain =
    select.chain.map (Chain.renumber number) := by
  obtain ⟨_, chain, _, _, _, _, _, _⟩ := select
  cases chain <;> rfl

theorem chain?_renumber : (select.renumber number).chain? =
    select.chain?.map (Chain.renumber number) := by
  rw [chain?, chain?, chain_renumber, items_renumber]
  cases select.chain with
  | some chain => rfl
  | none =>
      have sources : (SelectItem.source? ∘ SelectItem.renumber number) =
          Option.map (Source.renumber number) ∘ SelectItem.source? :=
        funext (SelectItem.source?_renumber number)
      rw [Option.map_none, List.findSome?_map, sources, ← List.map_findSome?,
        Option.map_map, Option.map_map]
      rfl

theorem refs_renumber {select : Select} {chain : Chain}
    (target : select.chain? = some chain) :
    (select.renumber number).refs =
      select.refs.map (AliasRef.renumber number) := by
  have renumbered := select.chain?_renumber number
  rw [target] at renumbered
  have items : (select.items.map (SelectItem.renumber number)).flatMap
      SelectItem.aliases =
        (select.items.flatMap SelectItem.aliases).map
          (Alias.renumber number) := by
    rw [List.flatMap_map, List.map_flatMap]
    congr
    funext item
    exact item.aliases_renumber number
  have each : Alias.ref ∘ Alias.renumber number =
      AliasRef.renumber number ∘ Alias.ref :=
    funext (Alias.ref_renumber number)
  rw [refs, refs, aliases_of_target renumbered, aliases_of_target target,
    items_renumber, items, chain.aliases_renumber number, ← List.map_append,
    List.map_map, List.map_map, each]

end Select

/-! ## Checks -/

section

variable {number} (injective : Function.Injective number)
include injective

theorem Alias.sameAs_renumber (left right : Alias) :
    (left.renumber number).sameAs (right.renumber number) =
      left.sameAs right := by
  rw [Bool.eq_iff_iff, sameAs, sameAs, beq_iff_eq, beq_iff_eq, ref_renumber,
    ref_renumber]
  exact injective.eq_iff

theorem Source.sameAs_renumber (left right : Source) :
    (left.renumber number).sameAs (right.renumber number) =
      left.sameAs right := by
  cases left with
  | table table => cases right <;> rfl
  | aliased renamed =>
      cases right with
      | table table => rfl
      | aliased other => exact renamed.sameAs_renumber injective other

theorem Chain.contains_renumber (chain : Chain) (source : Source) :
    (chain.renumber number).contains (source.renumber number) =
      chain.contains source := by
  rw [contains, contains, sources_renumber, List.any_map]
  congr
  funext held
  exact held.sameAs_renumber injective source

theorem Chain.holdsAlias_renumber (chain : Chain) (id : AliasId) :
    (chain.renumber number).holdsAlias (number id) = chain.holdsAlias id := by
  rw [holdsAlias, holdsAlias, sources_renumber, List.any_map]
  congr
  funext held
  cases held with
  | table table => rfl
  | aliased renamed =>
      rw [Bool.eq_iff_iff]
      show ((renamed.renumber number).ref.id == _) = true ↔ (_ == _) = true
      rw [beq_iff_eq, beq_iff_eq, renamed.ref_renumber number]
      exact injective.eq_iff

theorem SelectItem.isIn_renumber (item : SelectItem) (chain : Chain) :
    (item.renumber number).isIn (chain.renumber number) =
      item.isIn chain := by
  cases item with
  | source held => exact chain.contains_renumber injective held
  | field column =>
      rw [renumber, isIn, isIn, Field.renumber]
      cases column.binding with
      | some ref => exact chain.holdsAlias_renumber injective ref.id
      | none => exact chain.contains_renumber injective (.table column.table)

theorem Select.missingItem?_renumber (select : Select) (chain : Chain) :
    (select.renumber number).missingItem? (chain.renumber number) =
      (select.missingItem? chain).map (SelectItem.renumber number) := by
  rw [missingItem?, missingItem?, items_renumber, List.find?_map]
  congr
  funext item
  rw [Function.comp_apply, item.isIn_renumber injective]

end

end SqlWeave
