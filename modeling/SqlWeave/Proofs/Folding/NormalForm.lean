import SqlWeave.Query.Expr

/-!
# The normal form of expressions

Expressions are built by applying and combining, and both fold what they are
given: an operand may come back as it is, or one of its own operands in its
place.  So whether an operation is in normal form cannot be seen from the last
step that built it.  The steps keep the property for all operations of an
expression at once (`Expr.Built.normal`).
-/

namespace SqlWeave

namespace Expr

/-! ## What folding can do -/

theorem both_cases (left right : Expr) :
    (∃ constant, left.asBool? = some constant ∧
      both left right = if constant then right else ofBool false) ∨
    (∃ constant, right.asBool? = some constant ∧
      both left right = if constant then left else ofBool false) ∨
    (left.asBool? = none ∧ right.asBool? = none ∧
      both left right = binary .and left right) := by
  rcases first : left.asBool? with _ | _ | _ <;>
    rcases second : right.asBool? with _ | _ | _ <;>
      simp [both, first, second]

theorem either_cases (left right : Expr) :
    (∃ constant, left.asBool? = some constant ∧
      either left right = if constant then ofBool true else right) ∨
    (∃ constant, right.asBool? = some constant ∧
      either left right = if constant then ofBool true else left) ∨
    (left.asBool? = none ∧ right.asBool? = none ∧
      either left right = binary .or left right) := by
  rcases first : left.asBool? with _ | _ | _ <;>
    rcases second : right.asBool? with _ | _ | _ <;>
      simp [either, first, second]

theorem negate_cases (operand : Expr) :
    (∃ inner, operand = unary .not inner ∧ operand.negate = inner) ∨
    (∃ constant, operand.asBool? = some constant ∧
      operand.negate = ofBool (!constant)) ∨
    (operand.asBool? = none ∧ operand.root? ≠ some (.unary .not) ∧
      operand.negate = unary .not operand) := by
  cases operand with
  | unary operator inner => cases operator <;> simp [negate, asBool?, root?]
  | value constant => cases constant <;> simp [negate, asBool?, root?]
  | field field => simp [negate, asBool?, root?]
  | query select => simp [negate, asBool?, root?]
  | binary operator left right => simp [negate, asBool?, root?]

/-! ## Operations in normal form -/

/-- The right operand, if there is one. -/
def right? : Expr → Option Expr
  | binary _ _ right => some right
  | _ => none

/-- The operations of an expression, without those of its sub-queries. -/
def operations : Expr → List Expr
  | unary operator operand => unary operator operand :: operand.operations
  | binary operator left right =>
      binary operator left right :: (left.operations ++ right.operations)
  | _ => []

/-- The sub-queries of an expression, without those inside of them. -/
def subqueries : Expr → List Select
  | query select => [select]
  | unary _ operand => operand.subqueries
  | binary _ left right => left.subqueries ++ right.subqueries
  | _ => []

/-- The operation is not one that folding would have changed. -/
def IsNormal : Expr → Prop
  | unary .not operand =>
      operand.asBool? = none ∧ operand.root? ≠ some (.unary .not)
  | binary .and left right => left.asBool? = none ∧ right.asBool? = none
  | binary .or left right => left.asBool? = none ∧ right.asBool? = none
  | binary .eq _ right => right.isNull = false
  | binary .ne _ right => right.isNull = false
  | _ => True

/-- What is listed as an operation is one. -/
theorem exists_root_of_mem_operations {node : Expr} :
    (expr : Expr) → node ∈ expr.operations →
      ∃ operator, node.root? = some operator
  | value _, member => nomatch member
  | field _, member => nomatch member
  | query _, member => nomatch member
  | unary operator operand, member => by
      rcases List.mem_cons.mp member with rfl | inside
      · exact ⟨.unary operator, rfl⟩
      · exact exists_root_of_mem_operations operand inside
  | binary operator left right, member => by
      rcases List.mem_cons.mp member with rfl | inside
      · exact ⟨.binary operator, rfl⟩
      · rcases List.mem_append.mp inside with first | second
        · exact exists_root_of_mem_operations left first
        · exact exists_root_of_mem_operations right second

/-- There is a right operand exactly under a binary operator. -/
theorem right?_eq_none_iff {operator : Operator} {node : Expr}
    (root : node.root? = some operator) :
    node.right? = none ↔ operator.isUnary = true := by
  cases node with
  | unary operator operand =>
      cases root
      simp [right?, Operator.isUnary]
  | binary operator left right =>
      cases root
      simp [right?, Operator.isUnary]
  | value constant => cases root
  | field field => cases root
  | query select => cases root

end Expr

/-! ## What can be built -/

mutual

/-- The expression can be built from constants, columns and sub-queries. -/
inductive Expr.Built : Expr → Prop where
  | value (constant : Value) : Expr.Built (.value constant)
  | field (column : Field) : Expr.Built (.field column)
  | query {select : Select} (inner : Select.Built select) :
      Expr.Built (.query select)
  | apply (operator : UnaryOperator) {operand : Expr}
      (inner : Expr.Built operand) : Expr.Built (operand.apply operator)
  | combine (operator : BinaryOperator) {left right : Expr}
      (first : Expr.Built left) (second : Expr.Built right) :
      Expr.Built (left.combine operator right)

/-- All expressions of the statement, at any depth, can be built. -/
inductive Select.Built : Select → Prop where
  | mk {select : Select}
      (items : ∀ source, .source source ∈ select.items → Source.Built source)
      (chain : ∀ chain, select.chain = some chain → Chain.Built chain)
      (filter : Expr.Built select.filter)
      (ordering : ∀ term ∈ select.ordering, Expr.Built term.expr) :
      Select.Built select

/-- All expressions of the chain can be built. -/
inductive Chain.Built : Chain → Prop where
  | source {source : Source} (inner : Source.Built source) :
      Chain.Built (.source source)
  | join {join : Join} (inner : Join.Built join) : Chain.Built (.join join)

/-- All expressions of the join can be built. -/
inductive Join.Built : Join → Prop where
  | mk {join : Join} (left : Chain.Built join.left)
      (right : Source.Built join.right)
      (predicate : ∀ predicate, join.predicate = some predicate →
        Expr.Built predicate) : Join.Built join

/-- All expressions of the source can be built. -/
inductive Source.Built : Source → Prop where
  | table (table : Table) : Source.Built (.table table)
  | aliased {renamed : Alias} (inner : AliasTarget.Built renamed.target) :
      Source.Built (.aliased renamed)

/-- All expressions of what an alias renames can be built. -/
inductive AliasTarget.Built : AliasTarget → Prop where
  | table (table : Table) : AliasTarget.Built (.table table)
  | join {join : Join} (inner : Join.Built join) :
      AliasTarget.Built (.join join)
  | query {select : Select} (inner : Select.Built select) :
      AliasTarget.Built (.query select)

end

namespace Expr

/-- All operations are in normal form, and the sub-queries can be built. -/
structure Normal (expr : Expr) : Prop where
  operations : ∀ node ∈ expr.operations, node.IsNormal
  subqueries : ∀ select ∈ expr.subqueries, select.Built

theorem normal_value (constant : Value) : Normal (value constant) :=
  ⟨by simp [Expr.operations], by simp [Expr.subqueries]⟩

theorem normal_field (column : Field) : Normal (field column) :=
  ⟨by simp [Expr.operations], by simp [Expr.subqueries]⟩

theorem normal_query_iff (select : Select) :
    Normal (query select) ↔ select.Built := by
  constructor
  · intro normal
    exact normal.subqueries select (by simp [Expr.subqueries])
  · intro built
    exact ⟨by simp [Expr.operations], by simpa [Expr.subqueries] using built⟩

theorem normal_unary_iff (operator : UnaryOperator) (operand : Expr) :
    Normal (unary operator operand) ↔
      IsNormal (unary operator operand) ∧ operand.Normal := by
  constructor
  · rintro ⟨nodes, queries⟩
    rw [Expr.operations, List.forall_mem_cons] at nodes
    exact ⟨nodes.1, nodes.2, queries⟩
  · rintro ⟨root, nodes, queries⟩
    refine ⟨?_, queries⟩
    rw [Expr.operations, List.forall_mem_cons]
    exact ⟨root, nodes⟩

theorem normal_binary_iff (operator : BinaryOperator) (left right : Expr) :
    Normal (binary operator left right) ↔
      IsNormal (binary operator left right) ∧ left.Normal ∧ right.Normal := by
  constructor
  · rintro ⟨nodes, queries⟩
    rw [Expr.operations, List.forall_mem_cons, List.forall_mem_append] at nodes
    rw [Expr.subqueries, List.forall_mem_append] at queries
    exact ⟨nodes.1, ⟨nodes.2.1, queries.1⟩, nodes.2.2, queries.2⟩
  · rintro ⟨root, ⟨leftNodes, leftQueries⟩, rightNodes, rightQueries⟩
    constructor
    · rw [Expr.operations, List.forall_mem_cons, List.forall_mem_append]
      exact ⟨root, leftNodes, rightNodes⟩
    · rw [Expr.subqueries, List.forall_mem_append]
      exact ⟨leftQueries, rightQueries⟩

/-! ## The steps of building -/

namespace Normal

variable {left right operand : Expr}

theorem both (first : left.Normal) (second : right.Normal) :
    (left.both right).Normal := by
  rcases both_cases left right with ⟨constant, _, result⟩ |
    ⟨constant, _, result⟩ | ⟨constantless, constantless', result⟩
  · rw [result]
    cases constant with
    | true => exact second
    | false => exact normal_value _
  · rw [result]
    cases constant with
    | true => exact first
    | false => exact normal_value _
  · rw [result, normal_binary_iff]
    exact ⟨⟨constantless, constantless'⟩, first, second⟩

theorem either (first : left.Normal) (second : right.Normal) :
    (left.either right).Normal := by
  rcases either_cases left right with ⟨constant, _, result⟩ |
    ⟨constant, _, result⟩ | ⟨constantless, constantless', result⟩
  · rw [result]
    cases constant with
    | true => exact normal_value _
    | false => exact second
  · rw [result]
    cases constant with
    | true => exact normal_value _
    | false => exact first
  · rw [result, normal_binary_iff]
    exact ⟨⟨constantless, constantless'⟩, first, second⟩

/-- What comes out of a cancelled `NOT` was an operand before, so it is in normal
form together with the `NOT`. -/
theorem negate (inner : operand.Normal) : operand.negate.Normal := by
  rcases negate_cases operand with ⟨cancelled, shape, result⟩ |
    ⟨constant, _, result⟩ | ⟨constantless, single, result⟩
  · rw [result]
    rw [shape, normal_unary_iff] at inner
    exact inner.2
  · rw [result]
    exact normal_value _
  · rw [result, normal_unary_iff]
    exact ⟨⟨constantless, single⟩, inner⟩

theorem apply (operator : UnaryOperator) (inner : operand.Normal) :
    (operand.apply operator).Normal := by
  cases operator with
  | not => exact inner.negate
  | bitNot =>
      rw [Expr.apply, normal_unary_iff]
      exact ⟨trivial, inner⟩

theorem combine (operator : BinaryOperator) (first : left.Normal)
    (second : right.Normal) : (left.combine operator right).Normal := by
  unfold Expr.combine
  split
  · exact first.both second
  · exact first.either second
  · unfold equals
    split
    · exact (normal_binary_iff _ _ _).mpr ⟨trivial, first, second⟩
    · next notNull =>
        exact (normal_binary_iff _ _ _).mpr
          ⟨Bool.eq_false_iff.mpr notNull, first, second⟩
  · unfold notEquals
    split
    · exact (normal_binary_iff _ _ _).mpr ⟨trivial, first, second⟩
    · next notNull =>
        exact (normal_binary_iff _ _ _).mpr
          ⟨Bool.eq_false_iff.mpr notNull, first, second⟩
  · rw [normal_binary_iff]
    refine ⟨?_, first, second⟩
    cases operator <;> trivial

end Normal

/-- Whatever can be built is in normal form. -/
theorem Built.normal : {expr : Expr} → expr.Built → expr.Normal
  | _, .value constant => normal_value constant
  | _, .field column => normal_field column
  | _, .query inner => (normal_query_iff _).mpr inner
  | _, .apply operator inner => inner.normal.apply operator
  | _, .combine operator first second =>
      first.normal.combine operator second.normal

end Expr

end SqlWeave
