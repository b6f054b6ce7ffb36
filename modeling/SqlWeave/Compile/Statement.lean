import SqlWeave.Compile.Context
import SqlWeave.Query.Expr
import SqlWeave.Query.Source

/-!
# Scripts of statements

The script of each kind of node, by recursion on its syntax.  A `SELECT` is
checked before anything of it is written, and then registers its aliases in a
scope of its own; the scope ends with the statement because it is only part of
the context that the statement's clauses are compiled in.
-/

namespace SqlWeave

namespace Value

/-- A value as the value of a single parameter. -/
def boundScript : Value → Script
  | list items => Script.fail (.listAsParameter items.length)
  | value => Script.parameter value

/-- The items of a list in parentheses, each as a parameter. -/
def listScript (items : List Value) : Script :=
  if items.isEmpty then Script.fail .emptyList
  else (Script.commaSeparated (items.map boundScript)).parens

/-- A value as an operand.  Null is written as a keyword and a list as a list of
parameters. -/
def script : Value → Script
  | null => Script.keyword .null
  | list items => listScript items
  | value => boundScript value

end Value

/-- The name of a table. -/
def Table.script (context : Context) (table : Table) : Script :=
  Script.name (context.tablePath table)

/-- The name of a column, qualified unless columns stand alone. -/
def Field.script (context : Context) (field : Field) : Script :=
  if context.bareColumns then Script.name ⟨[field.name]⟩
  else
    match context.fieldPath field with
    | .ok path => Script.name path
    | .error error => Script.fail error

/-- An operator in the spelling of the dialect. -/
def Operator.script (context : Context) (operator : Operator) : Script :=
  Script.keyword (context.dialect.operatorKeyword operator)

/-- Whether an operand needs parentheses under an operator. -/
def Expr.wrapped (parent : Operator) (operand : Expr) (onRight : Bool) : Bool :=
  match operand.root? with
  | some operator => parent.needsParens operator onRight
  | none => false

/-- Limit and offset, both as parameters.  An offset alone comes with the limit
that the dialect asks for. -/
def limitsScript (context : Context) (limit offset : Option Int64) : Script :=
  let limit :=
    match limit, offset with
    | none, some _ => context.dialect.limitMax
    | limit, _ => limit
  (match limit with
    | some count => Script.keyword .limit ++ Script.parameter (.int count)
    | none => []) ++
  match offset with
  | some count => Script.keyword .offset ++ Script.parameter (.int count)
  | none => []

/-- An ordering, if it has terms. -/
def orderingScript (terms : List Script) : Script :=
  if terms.isEmpty then []
  else Script.keyword .orderBy ++ Script.commaSeparated terms

/-- What a statement selects. -/
def Select.itemsScript (context : Context) (select : Select) : Script :=
  Script.keyword .select ++
  (if select.distinct then Script.keyword .distinct else []) ++
  if select.items.isEmpty then Script.keyword .allColumns
  else
    Script.commaSeparated (select.projection.map fun field =>
      field.script context)

/-- The filter of a statement, given its script.  A constant filter is not
compiled: true is left out and false is written without a parameter. -/
def filterScript (constant : Option Bool) (script : Script) : Script :=
  match constant with
  | some true => []
  | some false => Script.keyword .whereFilter ++ Script.keyword .alwaysFalse
  | none => Script.keyword .whereFilter ++ script

/-- Check a statement, register its aliases and go on with `body` in the new
scope. -/
def Select.inScope (context : Context) (select : Select)
    (body : Context → Script) : Script :=
  if select.forUpdate && !context.dialect.forUpdate then
    Script.fail (context.notSupported .forUpdate)
  else
    match select.chain? with
    | none => Script.fail (.incomplete .noSource)
    | some chain =>
        match select.missingItem? chain with
        | some item => Script.fail (.incomplete (.notInFrom item.display))
        | none =>
            let registration :=
              context.innerNames.registerAll (select.aliases.map Alias.ref)
            Script.notes registration.events ++
              match registration.failure with
              | some error => Script.fail error
              | none => body (context.enter registration.names)

mutual

/-- The script of an expression. -/
def Expr.script (context : Context) : Expr → Script
  | .value constant => constant.script
  | .field field => field.script context
  | .query select => (select.script context).parens
  | .unary operator operand =>
      Operator.script context (.unary operator) ++
        Script.parensIf (operand.wrapped (.unary operator) false)
          (operand.script context)
  | .binary operator left right =>
      Script.parensIf (left.wrapped (.binary operator) false)
          (left.script context) ++
        Operator.script context (.binary operator) ++
        Script.parensIf (right.wrapped (.binary operator) true)
          (right.script context)

/-- The script of a `SELECT`. -/
def Select.script (context : Context) : Select → Script
  | ⟨items, chain, filter, ordering, limit, offset, distinct, forUpdate⟩ =>
      let select : Select :=
        ⟨items, chain, filter, ordering, limit, offset, distinct, forUpdate⟩
      select.inScope context fun context =>
        select.itemsScript context ++
        Script.keyword .fromSources ++
        (match chain with
          | some chain => chain.script context
          | none => SelectItem.firstSourceScript context items) ++
        filterScript filter.asBool? (filter.script context) ++
        orderingScript (OrderTerm.scripts context ordering) ++
        limitsScript context limit offset ++
        if forUpdate then Script.keyword .forUpdate else []

/-- The script of the source of the first item that has one. -/
def SelectItem.firstSourceScript (context : Context) :
    List SelectItem → Script
  | [] => []
  | .source source :: _ => source.script context
  | .field field :: rest =>
      if field.binding.isNone then field.table.script context
      else SelectItem.firstSourceScript context rest

/-- The script of a term of an ordering. -/
def OrderTerm.script (context : Context) : OrderTerm → Script
  | ⟨expr, direction, nulls⟩ =>
      match nulls with
      | none => expr.script context ++ Script.keyword direction.keyword
      | some nulls =>
          if context.dialect.nullsOrdering then
            expr.script context ++ Script.keyword direction.keyword ++
              Script.keyword nulls.keyword
          else Script.fail (context.notSupported nulls.keyword)

/-- The scripts of the terms of an ordering. -/
def OrderTerm.scripts (context : Context) : List OrderTerm → List Script
  | [] => []
  | term :: rest => term.script context :: OrderTerm.scripts context rest

/-- The script of a chain. -/
def Chain.script (context : Context) : Chain → Script
  | .source source => source.script context
  | .join join => join.script context

/-- The script of a join. -/
def Join.script (context : Context) : Join → Script
  | ⟨left, kind, right, predicate⟩ =>
      left.script context ++ Script.keyword kind.keyword ++
        right.script context ++
        match predicate with
        | some predicate =>
            Script.keyword .onPredicate ++ predicate.script context
        | none =>
            if kind.needsPredicate then
              Script.fail (.incomplete (.noPredicate kind right.display))
            else []

/-- The script of a source. -/
def Source.script (context : Context) : Source → Script
  | .table table => table.script context
  | .aliased renamed => renamed.script context

/-- The script of an alias: what it renames, and its name. -/
def Alias.script (context : Context) : Alias → Script
  | ⟨ref, target⟩ =>
      match context.nameOfRef ref with
      | .ok name =>
          target.script context ++ Script.keyword .asName ++
            Script.name ⟨[name]⟩
      | .error error => Script.fail error

/-- The script of what an alias renames. -/
def AliasTarget.script (context : Context) : AliasTarget → Script
  | .table table => table.script context
  | .join join => (join.script context).parens
  | .query select => (select.script context).parens

end

/-- Whether an operand of a compound statement is parenthesised. -/
def Operand.wrapped (context : Context) : Operand → Bool
  | .select _ => context.dialect.operandParens == .always
  | .compound _ => context.dialect.operandParens != .never

mutual

/-- The script of an operand of a compound statement. -/
def Operand.script (context : Context) : Operand → Script
  | .select select =>
      Script.parensIf ((Operand.select select).wrapped context)
        (select.script context)
  | .compound compound =>
      Script.parensIf ((Operand.compound compound).wrapped context)
        (compound.script context)

/-- The script of a compound statement.  Its ordering names columns of the
combined result, which have no qualifier. -/
def Compound.script (context : Context) : Compound → Script
  | ⟨left, operator, right, ordering, limit, offset⟩ =>
      left.script context ++ Script.keyword operator.keyword ++
        right.script context ++
        orderingScript (OrderTerm.scripts context.withBareColumns ordering) ++
        limitsScript context limit offset

end

end SqlWeave
