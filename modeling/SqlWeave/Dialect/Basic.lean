import SqlWeave.Operator
import SqlWeave.Schema.ColumnType
import SqlWeave.Text.Quoted

/-!
# Dialects

A dialect holds everything in which databases differ when a statement is
written: placeholders, quotes, spellings of operators and types, and which
optional clauses are accepted.
-/

namespace SqlWeave

/-- How the placeholder of a parameter is written. -/
inductive PlaceholderStyle where
  /-- `?` for every parameter. -/
  | questionMark
  /-- `$1`, `$2` and so on. -/
  | numbered
  /-- `%s` for every parameter. -/
  | format
  deriving DecidableEq, Repr

/-- Which operands of a compound statement are parenthesised. -/
inductive OperandParens where
  | never
  | always
  /-- Only operands that are compound statements themselves. -/
  | compounds
  deriving DecidableEq, Repr

/-- The rules of one database. -/
structure Dialect where
  name : String
  placeholders : PlaceholderStyle
  openQuote : Char
  closeQuote : Char
  operandParens : OperandParens
  /-- Whether `FOR UPDATE` is accepted. -/
  forUpdate : Bool
  /-- The limit to write when only an offset is asked for. -/
  limitMax : Option Int64
  /-- Whether `NULLS FIRST` and `NULLS LAST` are accepted. -/
  nullsOrdering : Bool
  /-- Operators that are spelled differently; the first entry counts. -/
  operators : List (Operator × Keyword)
  /-- Column types that are named differently; the first entry counts. -/
  typeNames : List (ColumnType × String)
  deriving DecidableEq, Repr

namespace Dialect

/-- The spelling of an operator. -/
def operatorKeyword (dialect : Dialect) (operator : Operator) : Keyword :=
  (dialect.operators.lookup operator).getD operator.keyword

/-- The name of a column type. -/
def typeName (dialect : Dialect) (type : ColumnType) : String :=
  (dialect.typeNames.lookup type).getD type.standardName

/-- The dialect with another spelling of an operator. -/
def withOperator (dialect : Dialect) (operator : Operator)
    (keyword : Keyword) : Dialect :=
  { dialect with operators := (operator, keyword) :: dialect.operators }

/-- The dialect with another name of a column type. -/
def withTypeName (dialect : Dialect) (type : ColumnType) (name : String) :
    Dialect :=
  { dialect with typeNames := (type, name) :: dialect.typeNames }

/-- The characters of a quoted name.  A closing quote inside it is doubled. -/
def quoteChars (dialect : Dialect) (name : String) : List Char :=
  Text.Quoted.enclose dialect.openQuote dialect.closeQuote name.toList

/-- A quoted name. -/
def quote (dialect : Dialect) (name : String) : String :=
  String.ofList (dialect.quoteChars name)

/-- The placeholder of the parameter with this number, counted from one. -/
def placeholder (dialect : Dialect) (index : Nat) : String :=
  match dialect.placeholders with
  | .questionMark => "?"
  | .numbered => "$" ++ toString index
  | .format => "%s"

end Dialect

end SqlWeave
