import SqlWeave.Keyword

/-!
# Operators

The operators of expressions, how they are written, and how tightly they bind.
Binding decides where an expression needs parentheses.
-/

namespace SqlWeave

/-- An operator with one operand, written in front of it. -/
inductive UnaryOperator where
  | not
  | bitNot
  deriving DecidableEq, Repr

/-- An operator between two operands. -/
inductive BinaryOperator where
  | and
  | or
  | add
  | sub
  | mul
  | div
  | mod
  | bitAnd
  | bitOr
  | xor
  | eq
  | ne
  | lt
  | le
  | gt
  | ge
  | isIn
  | notIn
  | is
  | isNot
  | like
  | ilike
  | concat
  deriving DecidableEq, Repr

/-- An operator. -/
inductive Operator where
  | unary (operator : UnaryOperator)
  | binary (operator : BinaryOperator)
  deriving DecidableEq, Repr

/-- How an operator groups with operators that bind as tightly. -/
inductive Associativity where
  /-- `a op b op c` means `(a op b) op c`. -/
  | left
  /-- Chaining is not portable, so operands that bind as tightly are always
  parenthesised. -/
  | none
  deriving DecidableEq, Repr

/-- The usual spelling of a unary operator. -/
def UnaryOperator.keyword : UnaryOperator → Keyword
  | not => .leading "NOT"
  | bitNot => .bare "~"

/-- The usual spelling of a binary operator. -/
def BinaryOperator.keyword : BinaryOperator → Keyword
  | and => .between "AND"
  | or => .between "OR"
  | add => .between "+"
  | sub => .between "-"
  | mul => .between "*"
  | div => .between "/"
  | mod => .between "%"
  | bitAnd => .between "&"
  | bitOr => .between "|"
  | xor => .between "#"
  | eq => .between "="
  | ne => .between "<>"
  | lt => .between "<"
  | le => .between "<="
  | gt => .between ">"
  | ge => .between ">="
  | isIn => .between "IN"
  | notIn => .between "NOT IN"
  | is => .between "IS"
  | isNot => .between "IS NOT"
  | like => .between "LIKE"
  | ilike => .between "ILIKE"
  | concat => .between "||"

namespace Operator

/-- The usual spelling of an operator. -/
def keyword : Operator → Keyword
  | unary operator => operator.keyword
  | binary operator => operator.keyword

/-- Whether the operator has one operand. -/
def isUnary : Operator → Bool
  | unary _ => true
  | binary _ => false

/-- How tightly an operator binds; greater binds tighter. -/
def precedence : Operator → Nat
  | binary .or => 1
  | binary .and => 2
  | unary .not => 3
  | binary .eq | binary .ne | binary .lt | binary .le | binary .gt
  | binary .ge | binary .isIn | binary .notIn | binary .is | binary .isNot
  | binary .like | binary .ilike => 4
  | binary .bitAnd | binary .bitOr | binary .xor => 5
  | binary .concat => 6
  | binary .add | binary .sub => 7
  | binary .mul | binary .div | binary .mod => 8
  | unary .bitNot => 9

/-- Comparisons and bit operators do not chain; all others group to the
left. -/
def associativity (operator : Operator) : Associativity :=
  if operator.precedence = 4 ∨ operator.precedence = 5 then .none else .left

/-- Whether an operand built with `child` needs parentheses under `parent`.
`onRight` tells whether it is the right operand. -/
def needsParens (parent child : Operator) (onRight : Bool) : Bool :=
  if parent.isUnary then
    decide (child.precedence < parent.precedence) ||
      (child.precedence == parent.precedence && !child.isUnary)
  else if child.precedence ≠ parent.precedence then
    decide (child.precedence < parent.precedence)
  else onRight || parent.associativity == .none

end Operator

end SqlWeave
