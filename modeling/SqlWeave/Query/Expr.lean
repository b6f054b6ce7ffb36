import SqlWeave.Query.Syntax

/-!
# Building expressions

Expressions are built with functions that keep them in a normal form: boolean
constants never stand under `AND`, `OR` or `NOT`, one `NOT` cancels another,
and comparing with null for equality becomes `IS NULL` or `IS NOT NULL`.
-/

namespace SqlWeave.Expr

/-- A boolean constant. -/
def ofBool (constant : Bool) : Expr := value (.bool constant)

/-- The boolean constant, if the expression is one. -/
def asBool? : Expr → Option Bool
  | value (.bool constant) => some constant
  | _ => none

/-- Whether the expression is the null constant. -/
def isNull : Expr → Bool
  | value .null => true
  | _ => false

/-- The operator at the root of the expression, if it is an operation. -/
def root? : Expr → Option Operator
  | unary operator _ => some (.unary operator)
  | binary operator _ _ => some (.binary operator)
  | _ => none

/-- `left = right`, or `left IS NULL` for a null constant. -/
def equals (left right : Expr) : Expr :=
  if right.isNull then binary .is left right else binary .eq left right

/-- `left <> right`, or `left IS NOT NULL` for a null constant. -/
def notEquals (left right : Expr) : Expr :=
  if right.isNull then binary .isNot left right else binary .ne left right

/-- `left AND right`, without boolean constants as operands. -/
def both (left right : Expr) : Expr :=
  match left.asBool?, right.asBool? with
  | some true, _ => right
  | _, some true => left
  | some false, _ => ofBool false
  | _, some false => ofBool false
  | none, none => binary .and left right

/-- `left OR right`, without boolean constants as operands. -/
def either (left right : Expr) : Expr :=
  match left.asBool?, right.asBool? with
  | some true, _ => ofBool true
  | _, some true => ofBool true
  | some false, _ => right
  | _, some false => left
  | none, none => binary .or left right

/-- `NOT operand`, unless the operand is a boolean constant or a `NOT`. -/
def negate : Expr → Expr
  | unary .not operand => operand
  | value (.bool constant) => ofBool (!constant)
  | operand => unary .not operand

/-- Apply a unary operator. -/
def apply (operator : UnaryOperator) (operand : Expr) : Expr :=
  match operator with
  | .not => operand.negate
  | .bitNot => unary .bitNot operand

/-- Combine two expressions with a binary operator. -/
def combine (operator : BinaryOperator) (left right : Expr) : Expr :=
  match operator with
  | .and => both left right
  | .or => either left right
  | .eq => equals left right
  | .ne => notEquals left right
  | operator => binary operator left right

/-- Order by the expression. -/
def ordered (expr : Expr) (direction : Direction) : OrderTerm :=
  ⟨expr, direction, none⟩

end SqlWeave.Expr

namespace SqlWeave.OrderTerm

/-- The term with nulls put first or last. -/
def withNulls (term : OrderTerm) (nulls : NullsOrder) : OrderTerm :=
  { term with nulls := some nulls }

end SqlWeave.OrderTerm
