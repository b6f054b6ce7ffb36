import SqlWeave.Operator
import SqlWeave.Query.JoinKind
import SqlWeave.Schema.Field

/-!
# The syntax of statements

Expressions, the sources they read from and the statements that hold them.  A
statement is a tree of plain data: it is built without a database in mind and
compiled for one later.

An expression may hold a `SELECT` as a sub-query, and an alias may rename a
chain of joins or a `SELECT`, so all of these types refer to one another.
-/

namespace SqlWeave

/-- The direction of an ordering. -/
inductive Direction where
  | ascending
  | descending
  deriving DecidableEq, Repr

/-- Where an ordering puts nulls. -/
inductive NullsOrder where
  | first
  | last
  deriving DecidableEq, Repr

/-- The keyword of a direction. -/
def Direction.keyword : Direction → Keyword
  | ascending => .ascending
  | descending => .descending

/-- The keyword of a placement of nulls. -/
def NullsOrder.keyword : NullsOrder → Keyword
  | first => .nullsFirst
  | last => .nullsLast

mutual

/-- An expression.  Each operator comes with exactly the operands it needs. -/
inductive Expr where
  /-- A constant. -/
  | value (constant : Value)
  /-- A column. -/
  | field (field : Field)
  /-- A sub-query. -/
  | query (select : Select)
  | unary (operator : UnaryOperator) (operand : Expr)
  | binary (operator : BinaryOperator) (left right : Expr)

/-- A `SELECT` statement. -/
structure Select where
  /-- What is selected; nothing stands for all columns. -/
  items : List SelectItem
  /-- What is selected from.  Without it, the first selected item that has a
  source tells. -/
  chain : Option Chain
  /-- Which rows are selected. -/
  filter : Expr
  ordering : List OrderTerm
  limit : Option Int64
  offset : Option Int64
  distinct : Bool
  forUpdate : Bool

/-- An entry of a selection.  A source stands for all of its fields. -/
inductive SelectItem where
  | source (source : Source)
  | field (field : Field)

/-- A term of an ordering. -/
structure OrderTerm where
  expr : Expr
  direction : Direction
  nulls : Option NullsOrder

/-- What a statement selects from: a source, or a chain of joins. -/
inductive Chain where
  | source (source : Source)
  | join (join : Join)

/-- A chain extended by one more source. -/
structure Join where
  left : Chain
  kind : JoinKind
  right : Source
  predicate : Option Expr

/-- A table or an alias, which can stand on either side of a join. -/
inductive Source where
  | table (table : Table)
  | aliased (renamed : Alias)

/-- A renamed table, chain of joins or sub-query. -/
structure Alias where
  ref : AliasRef
  target : AliasTarget

/-- What an alias renames. -/
inductive AliasTarget where
  | table (table : Table)
  | join (join : Join)
  | query (select : Select)

end

/-- The operator between two statements. -/
inductive SetOperator where
  | union
  | unionAll
  | intersect
  | except
  deriving DecidableEq, Repr

/-- The keyword of a set operator. -/
def SetOperator.keyword : SetOperator → Keyword
  | union => .between "UNION"
  | unionAll => .between "UNION ALL"
  | intersect => .between "INTERSECT"
  | except => .between "EXCEPT"

mutual

/-- An operand of a compound statement. -/
inductive Operand where
  | select (select : Select)
  | compound (compound : Compound)

/-- Two statements under a set operator.  Ordering and limits apply to the
combined result. -/
structure Compound where
  left : Operand
  operator : SetOperator
  right : Operand
  ordering : List OrderTerm
  limit : Option Int64
  offset : Option Int64

end

end SqlWeave
