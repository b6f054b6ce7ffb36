import SqlWeave.Dialect.Presets
import SqlWeave.Proofs.Constants.Alike
import SqlWeave.Proofs.Script.Compiled
import SqlWeave.Proofs.Script.Scope
import SqlWeave.Proofs.Script.Sharing

/-!
# Values in reading order

The values of a statement are the constants of its tree, read from left to
right: what it selects from, its filter, its ordering, and then its limit and
offset.  The traversal below knows neither scripts nor contexts; of the dialect
it only needs the limit that goes with an offset alone.  A statement that
compiles binds exactly these values in this order (`Database.values_eq`).
-/

namespace SqlWeave

/-- The values that a constant binds as an operand.  Null is written as a
keyword, and a list as its items. -/
def Value.operandValues : Value → List Value
  | null => []
  | list items => items
  | value => [value]

/-- The values of limit and offset.  An offset alone comes with the limit of the
dialect, if there is one. -/
def limitValues (limitMax : Option Int64) :
    Option Int64 → Option Int64 → List Value
  | some limit, some offset => [.int limit, .int offset]
  | some limit, none => [.int limit]
  | none, some offset => limitMax.toList.map .int ++ [.int offset]
  | none, none => []

mutual

/-- The values of an expression, those of the left operand first. -/
def Expr.boundValues (limitMax : Option Int64) : Expr → List Value
  | .value constant => constant.operandValues
  | .field _ => []
  | .query select => select.boundValues limitMax
  | .unary _ operand => operand.boundValues limitMax
  | .binary _ left right =>
      left.boundValues limitMax ++ right.boundValues limitMax

/-- The values of a `SELECT`: those of what it selects from, of its filter
unless that is a boolean constant, of its ordering, and its limit and offset. -/
def Select.boundValues (limitMax : Option Int64) : Select → List Value
  | ⟨items, chain, filter, ordering, limit, offset, _, _⟩ =>
      (match chain with
        | some chain => chain.boundValues limitMax
        | none => SelectItem.firstBoundValues limitMax items) ++
      (if filter.asBool?.isSome then [] else filter.boundValues limitMax) ++
      OrderTerm.allBoundValues limitMax ordering ++
      limitValues limitMax limit offset

/-- The values of the source of the first item that has one. -/
def SelectItem.firstBoundValues (limitMax : Option Int64) :
    List SelectItem → List Value
  | [] => []
  | .source source :: _ => source.boundValues limitMax
  | .field field :: rest =>
      if field.binding.isNone then []
      else SelectItem.firstBoundValues limitMax rest

/-- The values of the terms of an ordering. -/
def OrderTerm.allBoundValues (limitMax : Option Int64) :
    List OrderTerm → List Value
  | [] => []
  | ⟨expr, _, _⟩ :: rest =>
      expr.boundValues limitMax ++ OrderTerm.allBoundValues limitMax rest

/-- The values of a chain. -/
def Chain.boundValues (limitMax : Option Int64) : Chain → List Value
  | .source source => source.boundValues limitMax
  | .join join => join.boundValues limitMax

/-- The values of a join: those of its sides, and then of its predicate. -/
def Join.boundValues (limitMax : Option Int64) : Join → List Value
  | ⟨left, _, right, predicate⟩ =>
      left.boundValues limitMax ++ right.boundValues limitMax ++
        match predicate with
        | some predicate => predicate.boundValues limitMax
        | none => []

/-- The values of a source. -/
def Source.boundValues (limitMax : Option Int64) : Source → List Value
  | .table _ => []
  | .aliased renamed => renamed.boundValues limitMax

/-- The values of an alias. -/
def Alias.boundValues (limitMax : Option Int64) : Alias → List Value
  | ⟨_, target⟩ => target.boundValues limitMax

/-- The values of what an alias renames. -/
def AliasTarget.boundValues (limitMax : Option Int64) :
    AliasTarget → List Value
  | .table _ => []
  | .join join => join.boundValues limitMax
  | .query select => select.boundValues limitMax

end

mutual

/-- The values of a statement. -/
def Operand.boundValues (limitMax : Option Int64) : Operand → List Value
  | .select select => select.boundValues limitMax
  | .compound compound => compound.boundValues limitMax

/-- The values of a compound statement: those of its operands, of its ordering,
and its limit and offset. -/
def Compound.boundValues (limitMax : Option Int64) : Compound → List Value
  | ⟨left, _, right, ordering, limit, offset⟩ =>
      left.boundValues limitMax ++ right.boundValues limitMax ++
        OrderTerm.allBoundValues limitMax ordering ++
        limitValues limitMax limit offset

end

namespace Script

variable {first second : Script} {values others : List Value}

/-- If the script completes, these are the values of its parameters. -/
def Binds (script : Script) (values : List Value) : Prop :=
  script.Completes → Fragment.values script.fragments = values

namespace Binds

theorem nil : Binds [] [] := fun _ => rfl

theorem keyword (word : Keyword) : (Script.keyword word).Binds [] :=
  fun _ => rfl

theorem name (path : Path) : (Script.name path).Binds [] := fun _ => rfl

theorem parameter (value : Value) : (Script.parameter value).Binds [value] :=
  fun _ => rfl

theorem fail (error : QueryError) (values : List Value) :
    (Script.fail error).Binds values :=
  fun completes => absurd completes (not_completes_fail error)

theorem append (front : first.Binds values) (back : second.Binds others) :
    Binds (first ++ second) (values ++ others) := by
  intro completes
  obtain ⟨left, right⟩ := (completes_append _ _).mp completes
  rw [left.fragments_append, Fragment.values_append, front left, back right]

theorem additive : Additive Binds where
  nil := nil
  append := append

theorem keywords : Keyword.Fixed fun word => (Script.keyword word).Binds [] :=
  fun word _ => keyword word

theorem keyword_append (word : Keyword) (back : second.Binds others) :
    Binds (Script.keyword word ++ second) others :=
  additive.of_nil_append (keyword word) back

theorem append_of_nil (front : first.Binds values) (back : second.Binds []) :
    Binds (first ++ second) values :=
  additive.append_of_nil front back

theorem append_keyword (front : first.Binds values) (word : Keyword) :
    Binds (first ++ Script.keyword word) values :=
  front.append_of_nil (keyword word)

theorem parens (inner : first.Binds values) : first.parens.Binds values :=
  additive.parens keywords inner

theorem parensIf (inner : first.Binds values) (wrapped : Bool) :
    (first.parensIf wrapped).Binds values :=
  additive.parensIf keywords inner wrapped

theorem commaSeparated {scripts : List Script}
    (each : Share Binds scripts values) :
    (Script.commaSeparated scripts).Binds values :=
  additive.commaSeparated keywords each

theorem ordering {scripts : List Script}
    (each : Share Binds scripts values) :
    (orderingScript scripts).Binds values :=
  additive.ordering keywords each

end Binds

end Script

open Script (Binds Share)

/-! ## Constants, columns and counts -/

theorem Value.boundScript_binds (value : Value) :
    value.boundScript.Binds [value] := by
  cases value with
  | list items => exact .fail _ _
  | _ => exact .parameter _

theorem Value.share_items (items : List Value) :
    Share Binds (items.map boundScript) items := by
  induction items with
  | nil => exact .nil
  | cons item rest ih => exact Share.cons item.boundScript_binds ih

theorem Value.script_binds (constant : Value) :
    constant.script.Binds constant.operandValues := by
  cases constant with
  | null => exact .keyword _
  | list items =>
      rw [script, listScript, operandValues]
      split
      · exact .fail _ _
      · exact .parens (.commaSeparated (share_items items))
  | _ => exact .parameter _

theorem Field.script_binds (context : Context) (field : Field) :
    (field.script context).Binds [] := by
  rw [script]
  split
  · exact .name _
  · split
    · exact .name _
    · exact .fail _ _

theorem limitsScript_binds (context : Context) (limit offset : Option Int64) :
    (limitsScript context limit offset).Binds
      (limitValues context.dialect.limitMax limit offset) := by
  have count (word : Keyword) (number : Int64) :
      Binds (Script.keyword word ++ Script.parameter (.int number))
        [.int number] :=
    .keyword_append word (.parameter _)
  unfold limitsScript
  cases limit with
  | some limit =>
      cases offset with
      | some offset => exact (count .limit limit).append (count .offset offset)
      | none => exact (count .limit limit).append_of_nil .nil
  | none =>
      cases offset with
      | none => exact .nil
      | some offset =>
          rw [limitValues]
          cases context.dialect.limitMax with
          | some most => exact (count .limit most).append (count .offset offset)
          | none => exact count .offset offset

/-- A filter that is a boolean constant binds nothing. -/
theorem filterScript_binds (filter : Expr) {script : Script}
    {values : List Value} (inner : script.Binds values) :
    (filterScript filter.asBool? script).Binds
      (if filter.asBool?.isSome then [] else values) := by
  match filter.asBool? with
  | none => exact inner.keyword_append .whereFilter
  | some true => exact .nil
  | some false => exact .keyword_append _ (.keyword _)

theorem Select.itemsScript_binds (context : Context) (select : Select) :
    (select.itemsScript context).Binds [] := by
  rw [itemsScript]
  refine Binds.append_of_nil (Binds.keyword_append _ ?_) ?_
  · split
    · exact .keyword _
    · exact .nil
  · split
    · exact .keyword _
    · refine .commaSeparated (Share.of_forall_nil ?_)
      intro script member
      obtain ⟨field, _, rfl⟩ := List.mem_map.mp member
      exact field.script_binds context

/-! ## Statements -/

/-- A statement binds what its clauses bind in its scope, which is that of the
same dialect. -/
theorem Select.script_binds_of_clauses {context : Context} (select : Select)
    {values : List Value}
    (clauses : ∀ inner : Context, inner.dialect = context.dialect →
      (select.clausesScript inner).Binds values) :
    (select.script context).Binds values := by
  intro completes
  obtain ⟨chain, admitted⟩ := admitted_of_completes completes
  rw [admitted.fragments_eq]
  exact clauses _ rfl admitted.clauses

/-- The clauses of a statement bind the values of its parts one after the
other. -/
theorem Select.clausesScript_binds (context : Context) (select : Select)
    {source filter ordering : List Value}
    (sources : (select.sourceScript context).Binds source)
    (filtered : (select.filter.script context).Binds filter)
    (ordered : Share Binds (OrderTerm.scripts context select.ordering)
      ordering) :
    (select.clausesScript context).Binds
      (source ++ (if select.filter.asBool?.isSome then [] else filter) ++
        ordering ++
        limitValues context.dialect.limitMax select.limit select.offset) := by
  have locked : Binds
      (if select.forUpdate then Script.keyword .forUpdate else []) [] := by
    split
    · exact .keyword _
    · exact .nil
  have selected :=
    (select.itemsScript_binds context).append_keyword .fromSources
  have filters := filterScript_binds select.filter filtered
  have body := ((selected.append sources).append filters).append
    (.ordering ordered)
  have limits := limitsScript_binds context select.limit select.offset
  exact (body.append limits).append_of_nil locked

mutual

theorem Expr.script_binds (context : Context) : (expr : Expr) →
    (expr.script context).Binds (expr.boundValues context.dialect.limitMax)
  | .value constant => constant.script_binds
  | .field field => field.script_binds context
  | .query select => (Select.script_binds context select).parens
  | .unary _ operand =>
      ((Expr.script_binds context operand).parensIf _).keyword_append _
  | .binary _ left right =>
      (((Expr.script_binds context left).parensIf _).append_keyword _).append
        ((Expr.script_binds context right).parensIf _)

theorem Select.script_binds (context : Context) : (select : Select) →
    (select.script context).Binds
      (select.boundValues context.dialect.limitMax)
  | ⟨items, chain, filter, ordering, limit, offset, distinct, forUpdate⟩ => by
      apply Select.script_binds_of_clauses
      intro inner same
      rw [← same]
      have filtered := Expr.script_binds inner filter
      have ordered := OrderTerm.scripts_bind inner ordering
      cases chain with
      | some chain =>
          have sources := Chain.script_binds inner chain
          exact Select.clausesScript_binds inner _ sources filtered ordered
      | none =>
          have sources := SelectItem.firstSourceScript_binds inner items
          exact Select.clausesScript_binds inner _ sources filtered ordered

theorem SelectItem.firstSourceScript_binds (context : Context) :
    (items : List SelectItem) →
    (SelectItem.firstSourceScript context items).Binds
      (SelectItem.firstBoundValues context.dialect.limitMax items)
  | [] => .nil
  | .source source :: _ => Source.script_binds context source
  | .field field :: rest => by
      rw [SelectItem.firstSourceScript, SelectItem.firstBoundValues]
      split
      · exact .name _
      · exact SelectItem.firstSourceScript_binds context rest

theorem OrderTerm.scripts_bind (context : Context) :
    (terms : List OrderTerm) →
    Share Binds (OrderTerm.scripts context terms)
      (OrderTerm.allBoundValues context.dialect.limitMax terms)
  | [] => .nil
  | ⟨expr, direction, none⟩ :: rest => by
      have directed := (Expr.script_binds context expr).append_keyword
        direction.keyword
      rw [OrderTerm.scripts, OrderTerm.script]
      exact Share.cons directed (OrderTerm.scripts_bind context rest)
  | ⟨expr, direction, some nulls⟩ :: rest => by
      have directed := (Expr.script_binds context expr).append_keyword
        direction.keyword
      rw [OrderTerm.scripts, OrderTerm.script]
      refine Share.cons ?_ (OrderTerm.scripts_bind context rest)
      split
      · exact directed.append_keyword nulls.keyword
      · exact .fail _ _

theorem Chain.script_binds (context : Context) : (chain : Chain) →
    (chain.script context).Binds (chain.boundValues context.dialect.limitMax)
  | .source source => Source.script_binds context source
  | .join join => Join.script_binds context join

theorem Join.script_binds (context : Context) : (join : Join) →
    (join.script context).Binds (join.boundValues context.dialect.limitMax)
  | ⟨left, kind, right, predicate⟩ => by
      have sides := ((Chain.script_binds context left).append_keyword
        kind.keyword).append (Source.script_binds context right)
      cases predicate with
      | some predicate =>
          rw [Join.script]
          exact sides.append ((Expr.script_binds context
            predicate).keyword_append .onPredicate)
      | none =>
          rw [Join.script]
          refine sides.append ?_
          split
          · exact .fail _ _
          · exact .nil

theorem Source.script_binds (context : Context) : (source : Source) →
    (source.script context).Binds (source.boundValues context.dialect.limitMax)
  | .table _ => .name _
  | .aliased renamed => Alias.script_binds context renamed

theorem Alias.script_binds (context : Context) : (renamed : Alias) →
    (renamed.script context).Binds
      (renamed.boundValues context.dialect.limitMax)
  | ⟨ref, target⟩ => by
      rw [Alias.script]
      split
      · exact ((AliasTarget.script_binds context target).append_keyword
          .asName).append_of_nil (.name _)
      · exact .fail _ _

theorem AliasTarget.script_binds (context : Context) :
    (target : AliasTarget) →
    (target.script context).Binds (target.boundValues context.dialect.limitMax)
  | .table _ => .name _
  | .join join => (Join.script_binds context join).parens
  | .query select => (Select.script_binds context select).parens

end

mutual

theorem Operand.script_binds (context : Context) : (operand : Operand) →
    (operand.script context).Binds
      (operand.boundValues context.dialect.limitMax)
  | .select select => (Select.script_binds context select).parensIf _
  | .compound compound => (Compound.script_binds context compound).parensIf _

theorem Compound.script_binds (context : Context) : (compound : Compound) →
    (compound.script context).Binds
      (compound.boundValues context.dialect.limitMax)
  | ⟨left, operator, right, ordering, limit, offset⟩ => by
      have sides := ((Operand.script_binds context left).append_keyword
        operator.keyword).append (Operand.script_binds context right)
      have ordered := OrderTerm.scripts_bind context.withBareColumns ordering
      have limits := limitsScript_binds context limit offset
      rw [Compound.script]
      exact (sides.append (.ordering ordered)).append limits

end

/-- The values of a compiled statement are its constants in reading order. -/
theorem Database.values_eq (database : Database) (statement : Operand)
    {compiled : Statement}
    (succeeded : (database.compile statement.node).result = .ok compiled) :
    compiled.values = statement.boundValues database.dialect.limitMax := by
  obtain ⟨completes, rfl⟩ := (database.compile_eq_ok_iff _ _).mp succeeded
  cases statement with
  | select query => exact Select.script_binds database.context query completes
  | compound query =>
      exact Compound.script_binds database.context query completes

/-- A constant number. -/
def Expr.number (count : Int64) : Expr := .value (.int count)

/-- All columns of the rows of a table that pass the filter. -/
def Select.filtered (filter : Expr) (limit : Option Int64) : Select :=
  ⟨[], some (.source (.table ⟨⟨1⟩, none, "person", []⟩)), filter, [], limit,
    none, false, false⟩

/-- A table joined with an aliased sub-query.  There is an offset and no
limit. -/
def Select.joined (inner : Select) (predicate filter : Expr)
    (offset : Int64) : Select :=
  ⟨[], some (.join ⟨.source (.table ⟨⟨1⟩, none, "person", []⟩), .inner,
      .aliased ⟨⟨⟨1⟩, none⟩, .query inner⟩, some predicate⟩), filter, [], none,
    some offset, false, false⟩

/-- A union of a join and of an empty selection. -/
def Compound.paged : Compound :=
  ⟨.select (.joined (.filtered (.binary .lt (.number 1) (.number 2)) none)
      (.binary .eq (.number 3) (.number 4))
      (.binary .isIn (.number 5) (.value (.list [.int 6, .null]))) 7),
    .union, .select (.filtered (.ofBool false) (some 8)),
    [(Expr.binary .concat (.value (.text "x")) (.value .null)).ordered
      .descending], some 9, some 10⟩

/-- The sub-query comes first, then the predicate of the join, the filter and
the offset with its limit.  Null as an operand and the constant filter bind
nothing. -/
theorem Database.values_eq_paged :
    ∃ compiled,
      (compile ⟨.sqlite, none⟩ (Operand.compound .paged).node).result =
          .ok compiled ∧
        compiled.values =
          [.int 1, .int 2, .int 3, .int 4, .int 5, .int 6, .null, .int (-1),
            .int 7, .int 8, .text "x", .int 9, .int 10] :=
  ⟨_, rfl, values_eq ⟨.sqlite, none⟩ (.compound .paged) rfl⟩

end SqlWeave
