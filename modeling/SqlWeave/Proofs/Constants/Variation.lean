import SqlWeave.Query.Node
import SqlWeave.Query.Source

/-!
# Statements that differ in their constants

Two statements vary if one becomes the other by replacing constants: a scalar by
a scalar, the items of a list by as many others, and the numbers of limits and
offsets.  Which rows are asked for may be another question then, but the
statements read from the same sources and name the same columns.

A variation comes with the slots of both statements, in the order in which a
compiled statement binds them.  A slot holds the constants that stand at one
place of the two.
-/

namespace SqlWeave

/-- A place that a parameter is bound at. -/
inductive Slot where
  /-- A constant of each statement. -/
  | constant (first second : Value)
  /-- The limit that a dialect asks for when there is only an offset. -/
  | limitMax

namespace Slot

/-- The values that two statements bind at a slot. -/
def pairs (limitMax : Option Int64) : Slot → List (Value × Value)
  | constant first second => [(first, second)]
  | .limitMax => limitMax.toList.map fun count => (.int count, .int count)

/-- The slots of limit and offset. -/
def ofLimits (limit limit' offset offset' : Option Int64) : List Slot :=
  (match limit, limit', offset with
    | some first, some second, _ => [.constant (.int first) (.int second)]
    | _, _, some _ => [.limitMax]
    | _, _, none => []) ++
  match offset, offset' with
  | some first, some second => [.constant (.int first) (.int second)]
  | _, _ => []

/-- The slots of a filter, which is not compiled if it is constant. -/
def ofFilter (filter : Expr) (slots : List Slot) : List Slot :=
  if filter.asBool?.isSome then [] else slots

end Slot

namespace Value

/-- Whether the value holds several values. -/
def isList : Value → Bool
  | list _ => true
  | _ => false

/-- Whether the value is a single value other than null. -/
def isScalar (value : Value) : Bool := !value.isNull && !value.isList

/-- One constant may stand where the other stands. -/
inductive Varies : Value → Value → List Slot → Prop where
  | null : Varies .null .null []
  | scalar {first second : Value} (firstScalar : first.isScalar)
      (secondScalar : second.isScalar) :
      Varies first second [.constant first second]
  /-- Items that hold several values themselves are not replaced. -/
  | list (items : List (Value × Value))
      (each : ∀ item ∈ items, item.1 = item.2 ∨
        item.1.isList = false ∧ item.2.isList = false) :
      Varies (.list (items.map Prod.fst)) (.list (items.map Prod.snd))
        (items.map fun item => .constant item.1 item.2)

end Value

mutual

/-- The expressions differ in their constants only. -/
inductive Expr.Varies : Expr → Expr → List Slot → Prop where
  | value {first second : Value} {slots : List Slot} :
      first.Varies second slots →
      Expr.Varies (.value first) (.value second) slots
  | field (field : Field) : Expr.Varies (.field field) (.field field) []
  | query {first second : Select} {slots : List Slot} :
      Select.Varies first second slots →
      Expr.Varies (.query first) (.query second) slots
  | unary {first second : Expr} {slots : List Slot}
      (operator : UnaryOperator) : Expr.Varies first second slots →
      Expr.Varies (.unary operator first) (.unary operator second) slots
  | binary {left left' right right' : Expr} {leftSlots rightSlots : List Slot}
      (operator : BinaryOperator) : Expr.Varies left left' leftSlots →
      Expr.Varies right right' rightSlots →
      Expr.Varies (.binary operator left right) (.binary operator left' right')
        (leftSlots ++ rightSlots)

/-- The statements differ in their constants only.  A filter that is a boolean
constant stays as it is. -/
inductive Select.Varies : Select → Select → List Slot → Prop where
  | mk {items items' : List SelectItem} {chain chain' : Option Chain}
      {filter filter' : Expr} {ordering ordering' : List OrderTerm}
      {limit limit' offset offset' : Option Int64}
      {itemSlots sourceSlots filterSlots orderingSlots : List Slot}
      (distinct forUpdate : Bool)
      (itemsVary : SelectItem.AllVary items items' itemSlots)
      (targetVaries : Chain.TargetVaries itemSlots chain chain' sourceSlots)
      (filterVaries : Expr.Varies filter filter' filterSlots)
      (filterConstant : filter.asBool? = filter'.asBool?)
      (orderingVaries : OrderTerm.AllVary ordering ordering' orderingSlots)
      (limited : limit.isSome = limit'.isSome)
      (skipped : offset.isSome = offset'.isSome) :
      Select.Varies
        ⟨items, chain, filter, ordering, limit, offset, distinct, forUpdate⟩
        ⟨items', chain', filter', ordering', limit', offset', distinct,
          forUpdate⟩
        (sourceSlots ++ Slot.ofFilter filter filterSlots ++ orderingSlots ++
          Slot.ofLimits limit limit' offset offset')

/-- The items differ in constants only.  Their slots are those of the source
that is selected from if no other is given. -/
inductive SelectItem.AllVary :
    List SelectItem → List SelectItem → List Slot → Prop where
  | nil : SelectItem.AllVary [] [] []
  | source {first second : Source} {rest rest' : List SelectItem}
      {slots restSlots : List Slot} : Source.Varies first second slots →
      SelectItem.AllVary rest rest' restSlots →
      SelectItem.AllVary (.source first :: rest) (.source second :: rest') slots
  | field {rest rest' : List SelectItem} {slots : List Slot} (field : Field) :
      SelectItem.AllVary rest rest' slots →
      SelectItem.AllVary (.field field :: rest) (.field field :: rest')
        (if field.binding.isNone then [] else slots)

/-- What is selected from differs in constants only. -/
inductive Chain.TargetVaries :
    List Slot → Option Chain → Option Chain → List Slot → Prop where
  | none (itemSlots : List Slot) :
      Chain.TargetVaries itemSlots none none itemSlots
  | some {first second : Chain} {slots : List Slot} (itemSlots : List Slot) :
      Chain.Varies first second slots →
      Chain.TargetVaries itemSlots (some first) (some second) slots

/-- The orderings differ in constants only. -/
inductive OrderTerm.AllVary :
    List OrderTerm → List OrderTerm → List Slot → Prop where
  | nil : OrderTerm.AllVary [] [] []
  | cons {first second : Expr} {rest rest' : List OrderTerm}
      {slots restSlots : List Slot} (direction : Direction)
      (nulls : Option NullsOrder) : Expr.Varies first second slots →
      OrderTerm.AllVary rest rest' restSlots →
      OrderTerm.AllVary (⟨first, direction, nulls⟩ :: rest)
        (⟨second, direction, nulls⟩ :: rest') (slots ++ restSlots)

/-- The chains differ in constants only. -/
inductive Chain.Varies : Chain → Chain → List Slot → Prop where
  | source {first second : Source} {slots : List Slot} :
      Source.Varies first second slots →
      Chain.Varies (.source first) (.source second) slots
  | join {first second : Join} {slots : List Slot} :
      Join.Varies first second slots →
      Chain.Varies (.join first) (.join second) slots

/-- The joins differ in constants only. -/
inductive Join.Varies : Join → Join → List Slot → Prop where
  | mk {left left' : Chain} {right right' : Source}
      {predicate predicate' : Option Expr}
      {leftSlots rightSlots predicateSlots : List Slot} (kind : JoinKind) :
      Chain.Varies left left' leftSlots →
      Source.Varies right right' rightSlots →
      Expr.OptionVaries predicate predicate' predicateSlots →
      Join.Varies ⟨left, kind, right, predicate⟩
        ⟨left', kind, right', predicate'⟩
        (leftSlots ++ rightSlots ++ predicateSlots)

/-- The predicates, if there are any, differ in constants only. -/
inductive Expr.OptionVaries :
    Option Expr → Option Expr → List Slot → Prop where
  | none : Expr.OptionVaries none none []
  | some {first second : Expr} {slots : List Slot} :
      Expr.Varies first second slots →
      Expr.OptionVaries (some first) (some second) slots

/-- The sources differ in constants only. -/
inductive Source.Varies : Source → Source → List Slot → Prop where
  | table (table : Table) : Source.Varies (.table table) (.table table) []
  | aliased {first second : Alias} {slots : List Slot} :
      Alias.Varies first second slots →
      Source.Varies (.aliased first) (.aliased second) slots

/-- The aliases differ in constants only. -/
inductive Alias.Varies : Alias → Alias → List Slot → Prop where
  | mk {first second : AliasTarget} {slots : List Slot} (ref : AliasRef) :
      AliasTarget.Varies first second slots →
      Alias.Varies ⟨ref, first⟩ ⟨ref, second⟩ slots

/-- What the aliases rename differs in constants only. -/
inductive AliasTarget.Varies : AliasTarget → AliasTarget → List Slot → Prop where
  | table (table : Table) : AliasTarget.Varies (.table table) (.table table) []
  | join {first second : Join} {slots : List Slot} :
      Join.Varies first second slots →
      AliasTarget.Varies (.join first) (.join second) slots
  | query {first second : Select} {slots : List Slot} :
      Select.Varies first second slots →
      AliasTarget.Varies (.query first) (.query second) slots

end

mutual

/-- The operands differ in constants only. -/
inductive Operand.Varies : Operand → Operand → List Slot → Prop where
  | select {first second : Select} {slots : List Slot} :
      first.Varies second slots →
      Operand.Varies (.select first) (.select second) slots
  | compound {first second : Compound} {slots : List Slot} :
      Compound.Varies first second slots →
      Operand.Varies (.compound first) (.compound second) slots

/-- The compound statements differ in constants only. -/
inductive Compound.Varies : Compound → Compound → List Slot → Prop where
  | mk {left left' right right' : Operand} {ordering ordering' : List OrderTerm}
      {limit limit' offset offset' : Option Int64}
      {leftSlots rightSlots orderingSlots : List Slot}
      (operator : SetOperator) : Operand.Varies left left' leftSlots →
      Operand.Varies right right' rightSlots →
      OrderTerm.AllVary ordering ordering' orderingSlots →
      limit.isSome = limit'.isSome → offset.isSome = offset'.isSome →
      Compound.Varies ⟨left, operator, right, ordering, limit, offset⟩
        ⟨left', operator, right', ordering', limit', offset'⟩
        (leftSlots ++ rightSlots ++ orderingSlots ++
          Slot.ofLimits limit limit' offset offset')

end

end SqlWeave
