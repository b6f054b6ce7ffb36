import SqlWeave.Query.Equality
import SqlWeave.Query.Expr

/-!
# Nodes

A node is anything that can be compiled by itself.  Many nodes can stand in for
one another: a constant, a column or a `SELECT` is also an expression, and a
table is also a source, a chain and an entry of a selection.  The functions of
this module tell which roles a node can take.
-/

namespace SqlWeave

/-- A part of a statement that can be compiled by itself. -/
inductive Node where
  | keyword (word : Keyword)
  | path (path : Path)
  | value (constant : Value)
  | table (table : Table)
  | aliased (renamed : Alias)
  | join (join : Join)
  | field (field : Field)
  | expr (expr : Expr)
  | term (term : OrderTerm)
  | select (select : Select)
  | compound (compound : Compound)

namespace Node

/-- The node as an expression. -/
def expr? : Node → Option Expr
  | value constant => some (.value constant)
  | field column => some (.field column)
  | expr held => some held
  | select query => some (.query query)
  | _ => none

/-- The node as a term of an ordering; ascending unless it says otherwise. -/
def term? : Node → Option OrderTerm
  | term held => some held
  | node => node.expr?.map fun expr => expr.ordered .ascending

/-- The node as a source. -/
def source? : Node → Option Source
  | table held => some (.table held)
  | aliased renamed => some (.aliased renamed)
  | _ => none

/-- The node as a chain. -/
def chain? : Node → Option Chain
  | join held => some (.join held)
  | node => node.source?.map .source

/-- The node as an entry of a selection. -/
def item? : Node → Option SelectItem
  | field column => some (.field column)
  | node => node.source?.map .source

/-- The node as what an alias renames. -/
def target? : Node → Option AliasTarget
  | table held => some (.table held)
  | join held => some (.join held)
  | select query => some (.query query)
  | _ => none

/-- The node as an operand of a compound statement. -/
def operand? : Node → Option Operand
  | select query => some (.select query)
  | compound held => some (.compound held)
  | _ => none

/-- Whether two nodes are equal.  Two nodes of one kind are compared as such,
two sources as sources, and others as expressions, if they can be. -/
def same? : Node → Node → Option Bool
  | keyword left, keyword right => some (left == right)
  | path left, path right => some (left == right)
  | value left, value right => some (left == right)
  | join left, join right => some (left.same right)
  | field left, field right => some (left.same right)
  | term left, term right => some (left.same right)
  | select left, select right => some (left.same right)
  | compound left, compound right => some (left.same right)
  | left, right =>
      match left.source?, right.source? with
      | some left, some right => some (left.same right)
      | _, _ => do pure ((← left.expr?).same (← right.expr?))

end Node

end SqlWeave
