import SqlWeave.Event
import SqlWeave.Query.Join

/-!
# Building `SELECT` statements

A statement is refined one clause at a time.  Filters accumulate; limits and
orderings replace earlier ones, which is reported as an event.
-/

namespace SqlWeave

/-- The event of replacing what a slot holds, if it holds something. -/
def replacement (event : Int64 → Event) : Option Int64 → List Event
  | some previous => [event previous]
  | none => []

/-- The event of replacing an ordering, if it has terms. -/
def reordering (previous : List OrderTerm) : List Event :=
  if previous.isEmpty then [] else [.replacedOrdering previous.length]

namespace Select

/-- The statement that selects `items` and nothing else. -/
def ofItems (items : List SelectItem) : Select where
  items := items
  chain := none
  filter := Expr.ofBool true
  ordering := []
  limit := none
  offset := none
  distinct := false
  forUpdate := false

/-- Select from `chain`. -/
def selectFrom (select : Select) (chain : Chain) : Select :=
  { select with chain := some chain }

/-- Keep only rows that satisfy `predicate` as well. -/
def restrict (select : Select) (predicate : Expr) : Logged Select :=
  let filter := select.filter.both predicate
  ⟨{ select with filter := filter },
    if filter.asBool? = some false then [.filterAlwaysFalse] else []⟩

/-- Order the rows by `terms`. -/
def orderBy (select : Select) (terms : List OrderTerm) : Logged Select :=
  ⟨{ select with ordering := terms }, reordering select.ordering⟩

/-- Select at most `limit` rows. -/
def limitTo (select : Select) (limit : Int64) : Logged Select :=
  ⟨{ select with limit := some limit },
    replacement .replacedLimit select.limit⟩

/-- Skip the first `offset` rows. -/
def skip (select : Select) (offset : Int64) : Logged Select :=
  ⟨{ select with offset := some offset },
    replacement .replacedOffset select.offset⟩

/-- Select equal rows once. -/
def distinctRows (select : Select) : Select := { select with distinct := true }

/-- Lock the selected rows. -/
def lockRows (select : Select) : Select := { select with forUpdate := true }

/-- The chain that a join would extend. -/
def joinBase (select : Select) : Except QueryError Chain :=
  match select.chain? with
  | some chain => .ok chain
  | none => .error (.incomplete .nothingToJoin)

/-- Join a source on a predicate, or on a declared relation without one. -/
def join (select : Select) (source : Source) (kind : JoinKind)
    (predicate : Option Expr) : Except QueryError Select := do
  let chain ← select.joinBase
  pure (select.selectFrom (.join (← chain.joinOn source kind predicate)))

/-- Join a source, asking `lookup` for the predicate. -/
def joinUsing (select : Select) (source : Source) (kind : JoinKind)
    (lookup : RelationLookup) : Except QueryError Select := do
  let chain ← select.joinBase
  pure (select.selectFrom (.join (← chain.joinUsing source kind lookup)))

/-- Join the first source among the items that the chain does not hold yet. -/
def joinNext (select : Select) (predicate : Expr) :
    Except QueryError Select := do
  let chain ← select.joinBase
  match (select.items.filterMap SelectItem.source?).find? fun source =>
    !chain.contains source with
  | some source =>
      pure (select.selectFrom (.join ⟨chain, .inner, source, some predicate⟩))
  | none => .error (.incomplete .allJoined)

end Select

namespace Compound

/-- Two statements under a set operator. -/
def of (left : Operand) (operator : SetOperator) (right : Operand) :
    Compound where
  left := left
  operator := operator
  right := right
  ordering := []
  limit := none
  offset := none

/-- Order the combined rows by `terms`. -/
def orderBy (compound : Compound) (terms : List OrderTerm) :
    Logged Compound :=
  ⟨{ compound with ordering := terms }, reordering compound.ordering⟩

/-- Keep at most `limit` of the combined rows. -/
def limitTo (compound : Compound) (limit : Int64) : Logged Compound :=
  ⟨{ compound with limit := some limit },
    replacement .replacedLimit compound.limit⟩

/-- Skip the first `offset` of the combined rows. -/
def skip (compound : Compound) (offset : Int64) : Logged Compound :=
  ⟨{ compound with offset := some offset },
    replacement .replacedOffset compound.offset⟩

end Compound

end SqlWeave
