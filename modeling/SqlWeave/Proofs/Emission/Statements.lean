import SqlWeave.Proofs.Emission.Emitter
import SqlWeave.Proofs.Script.Scope

/-!
# Statements in place

How each kind of node is written in place.  A `SELECT` opens a scope for its
clauses when it has passed its checks, and the ordering of a compound statement
switches the qualifiers of columns off; both put things back afterwards.  Each
node thereby follows its script (`Node.emission_writes`), so it can stand
anywhere in a statement (`Node.emission_compositional`).
-/

namespace SqlWeave

/-! ## Emissions of nodes -/

/-- The filter of a statement, given how it is written. -/
def filterEmission (constant : Option Bool) (inner : Emission) : Emission :=
  match constant with
  | some true => .skip
  | some false => .keyword .whereFilter ++ .keyword .alwaysFalse
  | none => .keyword .whereFilter ++ inner

/-- Report how aliases were registered, and write the clauses in the new scope
unless that failed. -/
def AliasNames.Registration.emission (registration : AliasNames.Registration)
    (clauses : Emission) : Emission :=
  .put (fun _ => Script.notes registration.events) ++
    match registration.failure with
    | some error => .fail error
    | none => .inScope registration.names clauses

/-- Check a statement, register its aliases and write its clauses in the new
scope. -/
def Select.emissionInScope (select : Select) (clauses : Emission) : Emission :=
  .choose fun context =>
    if select.forUpdate && !context.dialect.forUpdate then
      .fail (context.notSupported .forUpdate)
    else
      match select.chain? with
      | none => .fail (.incomplete .noSource)
      | some chain =>
          match select.missingItem? chain with
          | some item => .fail (.incomplete (.notInFrom item.display))
          | none => (select.registration context).emission clauses

/-- The clauses of a statement in the order of writing, given how its parts are
written. -/
def Select.clausesEmission (select : Select) (source filter : Emission)
    (ordering : List Emission) : Emission :=
  .put (fun context => select.itemsScript context) ++
  .keyword .fromSources ++
  source ++
  filterEmission select.filter.asBool? filter ++
  .ordering ordering ++
  .put (fun context => limitsScript context select.limit select.offset) ++
  if select.forUpdate then .keyword .forUpdate else .skip

mutual

/-- How an expression is written. -/
def Expr.emission : Expr → Emission
  | .value constant => .put fun _ => constant.script
  | .field field => .put fun context => field.script context
  | .query select => select.emission.parens
  | .unary operator operand =>
      .put (fun context => Operator.script context (.unary operator)) ++
        .parensIf (operand.wrapped (.unary operator) false) operand.emission
  | .binary operator left right =>
      .parensIf (left.wrapped (.binary operator) false) left.emission ++
        .put (fun context => Operator.script context (.binary operator)) ++
        .parensIf (right.wrapped (.binary operator) true) right.emission

/-- How a `SELECT` is written. -/
def Select.emission : Select → Emission
  | ⟨items, chain, filter, ordering, limit, offset, distinct, forUpdate⟩ =>
      let select : Select :=
        ⟨items, chain, filter, ordering, limit, offset, distinct, forUpdate⟩
      select.emissionInScope <|
        select.clausesEmission
          (match chain with
            | some chain => chain.emission
            | none => SelectItem.firstSourceEmission items)
          filter.emission (OrderTerm.emissions ordering)

/-- How the source of the first item that has one is written. -/
def SelectItem.firstSourceEmission : List SelectItem → Emission
  | [] => .skip
  | .source source :: _ => source.emission
  | .field field :: rest =>
      if field.binding.isNone then .put fun context => field.table.script context
      else SelectItem.firstSourceEmission rest

/-- How a term of an ordering is written. -/
def OrderTerm.emission : OrderTerm → Emission
  | ⟨expr, direction, nulls⟩ =>
      match nulls with
      | none => expr.emission ++ .keyword direction.keyword
      | some nulls =>
          .choose fun context =>
            if context.dialect.nullsOrdering then
              expr.emission ++ .keyword direction.keyword ++
                .keyword nulls.keyword
            else .fail (context.notSupported nulls.keyword)

/-- How the terms of an ordering are written. -/
def OrderTerm.emissions : List OrderTerm → List Emission
  | [] => []
  | term :: rest => term.emission :: OrderTerm.emissions rest

/-- How a chain is written. -/
def Chain.emission : Chain → Emission
  | .source source => source.emission
  | .join join => join.emission

/-- How a join is written. -/
def Join.emission : Join → Emission
  | ⟨left, kind, right, predicate⟩ =>
      left.emission ++ .keyword kind.keyword ++ right.emission ++
        match predicate with
        | some predicate => .keyword .onPredicate ++ predicate.emission
        | none =>
            if kind.needsPredicate then
              .fail (.incomplete (.noPredicate kind right.display))
            else .skip

/-- How a source is written. -/
def Source.emission : Source → Emission
  | .table table => .put fun context => table.script context
  | .aliased renamed => renamed.emission

/-- How an alias is written. -/
def Alias.emission : Alias → Emission
  | ⟨ref, target⟩ =>
      .choose fun context =>
        match context.nameOfRef ref with
        | .ok name =>
            target.emission ++ .keyword .asName ++
              .put fun _ => Script.name ⟨[name]⟩
        | .error error => .fail error

/-- How what an alias renames is written. -/
def AliasTarget.emission : AliasTarget → Emission
  | .table table => .put fun context => table.script context
  | .join join => join.emission.parens
  | .query select => select.emission.parens

end

mutual

/-- How an operand of a compound statement is written. -/
def Operand.emission : Operand → Emission
  | .select select =>
      .choose fun context =>
        .parensIf ((Operand.select select).wrapped context) select.emission
  | .compound compound =>
      .choose fun context =>
        .parensIf ((Operand.compound compound).wrapped context)
          compound.emission

/-- How a compound statement is written. -/
def Compound.emission : Compound → Emission
  | ⟨left, operator, right, ordering, limit, offset⟩ =>
      left.emission ++ .keyword operator.keyword ++ right.emission ++
        (if ordering.isEmpty then .skip
          else .keyword .orderBy ++
            .inBareColumns (.commaSeparated (OrderTerm.emissions ordering))) ++
        .put fun context => limitsScript context limit offset

end

/-- How a node is written. -/
def Node.emission : Node → Emission
  | keyword word => .keyword word
  | path name => .put fun _ => Script.name name
  | value constant => .put fun _ => constant.script
  | table declared => .put fun context => declared.script context
  | aliased renamed => renamed.emission
  | join chain => chain.emission
  | field column => .put fun context => column.script context
  | expr held => held.emission
  | term ordered => ordered.emission
  | select query => query.emission
  | compound query => query.emission

/-! ## Each node follows its script -/

open Emission (Writes AllWrite)

theorem filterEmission_writes (constant : Option Bool) {inner : Emission}
    {script : Context → Script} (writes : inner.Writes script) :
    (filterEmission constant inner).Writes fun context =>
      filterScript constant (script context) := by
  cases constant with
  | none => exact (Writes.keyword _).append writes
  | some held =>
      cases held with
      | false => exact (Writes.keyword _).append (.keyword _)
      | true => exact .skip

theorem AliasNames.Registration.emission_writes
    (registration : AliasNames.Registration) {clauses : Emission}
    {script : Context → Script} (writes : clauses.Writes script) :
    (registration.emission clauses).Writes fun context =>
      Script.notes registration.events ++
        match registration.failure with
        | some error => Script.fail error
        | none => script (context.enter registration.names) := by
  apply Writes.append (.put _)
  cases registration.failure with
  | some error => exact .put _
  | none => exact writes.inScope _

theorem Select.emissionInScope_writes (select : Select) {clauses : Emission}
    {script : Context → Script} (writes : clauses.Writes script) :
    (select.emissionInScope clauses).Writes fun context =>
      select.inScope context script := by
  intro emitter
  rw [emissionInScope, Emission.choose]
  simp only [inScope]
  cases select.forUpdate && !emitter.context.dialect.forUpdate with
  | true => rfl
  | false =>
      cases select.chain? with
      | none => rfl
      | some chain =>
          dsimp only
          cases select.missingItem? chain with
          | some item => rfl
          | none =>
              exact (select.registration emitter.context).emission_writes writes
                emitter

theorem Select.clausesEmission_writes (select : Select)
    {source filter : Emission} {ordering : List Emission}
    (sources : source.Writes fun context => select.sourceScript context)
    (filters : filter.Writes fun context => select.filter.script context)
    (orders : AllWrite ordering fun context =>
      OrderTerm.scripts context select.ordering) :
    (select.clausesEmission source filter ordering).Writes fun context =>
      select.clausesScript context := by
  have locked : Writes
      (if select.forUpdate then Emission.keyword .forUpdate else .skip)
      fun _ => if select.forUpdate then Script.keyword .forUpdate else [] := by
    split
    · exact .keyword _
    · exact .skip
  have selected := (Writes.put select.itemsScript).append
    (.keyword .fromSources)
  have filtered := filterEmission_writes select.filter.asBool? filters
  have body := ((selected.append sources).append filtered).append
    orders.ordering
  have limits := Writes.put fun context =>
    limitsScript context select.limit select.offset
  exact (body.append limits).append locked

/-- A statement follows its script if its clauses do. -/
theorem Select.emission_writes_of_clauses (select : Select)
    {clauses : Emission}
    (writes : clauses.Writes fun context => select.clausesScript context) :
    (select.emissionInScope clauses).Writes fun context =>
      select.script context := by
  intro emitter
  show _ = emitter.follow (select.script emitter.context)
  rw [script_eq_inScope]
  exact select.emissionInScope_writes writes emitter

mutual

theorem Expr.emission_writes : (expr : Expr) →
    expr.emission.Writes fun context => expr.script context
  | .value _ => .put _
  | .field _ => .put _
  | .query select => select.emission_writes.parens
  | .unary _ operand =>
      (Writes.put _).append (operand.emission_writes.parensIf _)
  | .binary _ left right =>
      ((left.emission_writes.parensIf _).append (.put _)).append
        (right.emission_writes.parensIf _)

theorem Select.emission_writes : (select : Select) →
    select.emission.Writes fun context => select.script context
  | ⟨items, chain, filter, ordering, limit, offset, distinct, forUpdate⟩ => by
      cases chain with
      | some chain =>
          apply Select.emission_writes_of_clauses
          exact Select.clausesEmission_writes _ chain.emission_writes
            filter.emission_writes (OrderTerm.emissions_write ordering)
      | none =>
          apply Select.emission_writes_of_clauses
          exact Select.clausesEmission_writes _
            (SelectItem.firstSourceEmission_writes items)
            filter.emission_writes (OrderTerm.emissions_write ordering)

theorem SelectItem.firstSourceEmission_writes : (items : List SelectItem) →
    (SelectItem.firstSourceEmission items).Writes fun context =>
      SelectItem.firstSourceScript context items
  | [] => .skip
  | .source source :: _ => source.emission_writes
  | .field field :: rest => by
      rw [SelectItem.firstSourceEmission]
      simp only [SelectItem.firstSourceScript]
      split
      · exact .put _
      · exact SelectItem.firstSourceEmission_writes rest

theorem OrderTerm.emission_writes : (term : OrderTerm) →
    term.emission.Writes fun context => term.script context
  | ⟨expr, direction, none⟩ => expr.emission_writes.append (.keyword _)
  | ⟨expr, direction, some nulls⟩ => by
      intro emitter
      rw [OrderTerm.emission, Emission.choose]
      simp only [OrderTerm.script]
      cases emitter.context.dialect.nullsOrdering with
      | true =>
          exact ((expr.emission_writes.append (.keyword _)).append
            (.keyword _)) emitter
      | false => rfl

theorem OrderTerm.emissions_write : (terms : List OrderTerm) →
    AllWrite (OrderTerm.emissions terms) fun context =>
      OrderTerm.scripts context terms
  | [] => .nil
  | term :: rest => .cons term.emission_writes (OrderTerm.emissions_write rest)

theorem Chain.emission_writes : (chain : Chain) →
    chain.emission.Writes fun context => chain.script context
  | .source source => source.emission_writes
  | .join join => join.emission_writes

theorem Join.emission_writes : (join : Join) →
    join.emission.Writes fun context => join.script context
  | ⟨left, kind, right, predicate⟩ => by
      have sides := (left.emission_writes.append (.keyword kind.keyword)).append
        right.emission_writes
      cases predicate with
      | some predicate =>
          exact sides.append
            ((Writes.keyword _).append predicate.emission_writes)
      | none =>
          refine sides.append (?_ : Writes (if kind.needsPredicate then _ else _)
            fun _ => if kind.needsPredicate then _ else _)
          split
          · exact .put _
          · exact .skip

theorem Source.emission_writes : (source : Source) →
    source.emission.Writes fun context => source.script context
  | .table table => .put fun context => table.script context
  | .aliased renamed => renamed.emission_writes

theorem Alias.emission_writes : (renamed : Alias) →
    renamed.emission.Writes fun context => renamed.script context
  | ⟨ref, target⟩ => by
      intro emitter
      rw [Alias.emission, Emission.choose]
      simp only [Alias.script]
      cases emitter.context.nameOfRef ref with
      | ok name =>
          exact ((target.emission_writes.append (.keyword _)).append
            (.put _)) emitter
      | error error => rfl

theorem AliasTarget.emission_writes : (target : AliasTarget) →
    target.emission.Writes fun context => target.script context
  | .table table => .put fun context => table.script context
  | .join join => join.emission_writes.parens
  | .query select => select.emission_writes.parens

end

mutual

theorem Operand.emission_writes : (operand : Operand) →
    operand.emission.Writes fun context => operand.script context
  | .select select => fun emitter => select.emission_writes.parensIf _ emitter
  | .compound compound =>
      fun emitter => compound.emission_writes.parensIf _ emitter

theorem Compound.emission_writes : (compound : Compound) →
    compound.emission.Writes fun context => compound.script context
  | ⟨left, operator, right, ordering, limit, offset⟩ => by
      have sides := (left.emission_writes.append
        (.keyword operator.keyword)).append right.emission_writes
      refine (sides.append ?_).append (.put _)
      cases ordering with
      | nil => exact .skip
      | cons term rest =>
          have terms := OrderTerm.emissions_write (term :: rest)
          exact (Writes.keyword _).append terms.commaSeparated.inBareColumns

end

theorem Node.emission_writes (node : Node) :
    node.emission.Writes fun context => node.script context := by
  cases node with
  | keyword word => exact .keyword word
  | path name => exact .put fun _ => Script.name name
  | value constant => exact .put fun _ => constant.script
  | table declared => exact .put fun context => declared.script context
  | aliased renamed => exact renamed.emission_writes
  | join chain => exact chain.emission_writes
  | field column => exact .put fun context => column.script context
  | expr held => exact held.emission_writes
  | term ordered => exact ordered.emission_writes
  | select query => exact query.emission_writes
  | compound query => exact query.emission_writes

/-! ## Nodes anywhere in a statement -/

/-- The emitter that has written what a draft holds. -/
def Draft.emitter (draft : Draft) : Emitter :=
  ⟨draft.context, draft.fragments.foldl
    (Buffers.write draft.context.dialect) .empty⟩

/-- To append a node to a draft is to write it in place. -/
theorem Draft.emitter_write (draft : Draft) (node : Node) :
    (node.emission draft.emitter).2 = (draft.write node).emitter := by
  rw [node.emission_writes]
  simp only [emitter, write, append, Emitter.follow, List.foldl_append]

/-- Nodes, and the operands of compound statements, are compositional: whatever
was written before and in whatever context, and whether or not they fail, they
leave both alone and add what they write by themselves.  What they write is
their script. -/
theorem Node.emission_compositional (node : Node) (operand : Operand) :
    node.emission.Compositional ∧ operand.emission.Compositional ∧
      (node.emission.Writes fun context => node.script context) ∧
      (operand.emission.Writes fun context => operand.script context) ∧
      ∀ draft : Draft,
        (node.emission draft.emitter).2 = (draft.write node).emitter :=
  ⟨node.emission_writes.compositional, operand.emission_writes.compositional,
    node.emission_writes, operand.emission_writes,
    fun draft => draft.emitter_write node⟩

end SqlWeave
