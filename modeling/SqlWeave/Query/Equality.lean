import SqlWeave.Query.Source

/-!
# Equality of statements

Statements are equal if they are built alike: the same operators over equal
constants and the same columns.  An alias is compared by its reference and not
by what it renames, and a NaN is not equal to itself.
-/

namespace SqlWeave

namespace Source

/-- Whether both are the same table, or aliases with the same reference. -/
def same : Source → Source → Bool
  | aliased left, aliased right => left.ref == right.ref
  | left, right => left.sameAs right

end Source

namespace SelectItem

/-- Whether both select the same. -/
def same : SelectItem → SelectItem → Bool
  | source left, source right => left.same right
  | field left, field right => left.same right
  | _, _ => false

/-- Whether two selections are the same, item by item. -/
def sameAll : List SelectItem → List SelectItem → Bool
  | [], [] => true
  | left :: lefts, right :: rights => left.same right && sameAll lefts rights
  | _, _ => false

end SelectItem

mutual

/-- Whether two expressions are equal. -/
def Expr.same : Expr → Expr → Bool
  | .value left, .value right => left == right
  | .field left, .field right => left.same right
  | .query left, .query right => left.same right
  | .unary operator left, .unary other right =>
      operator == other && left.same right
  | .binary operator left right, .binary other left' right' =>
      operator == other && left.same left' && right.same right'
  | _, _ => false
termination_by structural left => left

/-- Whether two `SELECT` statements are equal. -/
def Select.same : Select → Select → Bool
  | ⟨items, chain, filter, ordering, limit, offset, distinct, forUpdate⟩,
    other =>
      SelectItem.sameAll items other.items &&
        Chain.sameOption chain other.chain &&
        filter.same other.filter && OrderTerm.sameAll ordering other.ordering &&
        limit == other.limit && offset == other.offset &&
        distinct == other.distinct && forUpdate == other.forUpdate
termination_by structural left => left

/-- Whether two terms of an ordering are equal. -/
def OrderTerm.same : OrderTerm → OrderTerm → Bool
  | ⟨expr, direction, nulls⟩, other =>
      expr.same other.expr && direction == other.direction &&
        nulls == other.nulls
termination_by structural left => left

/-- Whether two orderings are equal, term by term. -/
def OrderTerm.sameAll : List OrderTerm → List OrderTerm → Bool
  | [], [] => true
  | left :: lefts, right :: rights =>
      left.same right && OrderTerm.sameAll lefts rights
  | _, _ => false
termination_by structural left => left

/-- Whether two chains are equal. -/
def Chain.same : Chain → Chain → Bool
  | .source left, .source right => left.same right
  | .join left, .join right => left.same right
  | _, _ => false
termination_by structural left => left

/-- Whether two joins are equal. -/
def Join.same : Join → Join → Bool
  | ⟨left, kind, right, predicate⟩, other =>
      left.same other.left && kind == other.kind && right.same other.right &&
        Expr.sameOption predicate other.predicate
termination_by structural left => left

/-- Whether two chains are equal, if there are any. -/
def Chain.sameOption : Option Chain → Option Chain → Bool
  | none, none => true
  | some left, some right => left.same right
  | _, _ => false
termination_by structural left => left

/-- Whether two expressions are equal, if there are any. -/
def Expr.sameOption : Option Expr → Option Expr → Bool
  | none, none => true
  | some left, some right => left.same right
  | _, _ => false
termination_by structural left => left

end

/-- Whether two aliases rename the same. -/
def AliasTarget.same : AliasTarget → AliasTarget → Bool
  | table left, table right => left.sameAs right
  | join left, join right => left.same right
  | query left, query right => left.same right
  | _, _ => false

/-- Whether two aliases have the same reference. -/
def Alias.same (left right : Alias) : Bool := left.ref == right.ref

mutual

/-- Whether two operands of compound statements are equal. -/
def Operand.same : Operand → Operand → Bool
  | .select left, .select right => left.same right
  | .compound left, .compound right => left.same right
  | _, _ => false
termination_by structural left => left

/-- Whether two compound statements are equal. -/
def Compound.same : Compound → Compound → Bool
  | ⟨left, operator, right, ordering, limit, offset⟩, other =>
      left.same other.left && operator == other.operator &&
        right.same other.right && OrderTerm.sameAll ordering other.ordering &&
        limit == other.limit && offset == other.offset
termination_by structural left => left

end

end SqlWeave
