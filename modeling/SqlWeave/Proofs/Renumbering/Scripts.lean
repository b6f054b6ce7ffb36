import Mathlib.Logic.Equiv.Basic
import SqlWeave.Dialect.Presets
import SqlWeave.Proofs.Alias.Qualifiers
import SqlWeave.Proofs.Renumbering.Names

/-!
# Renumbered aliases do not show

What is written for a statement does not depend on the numbers of its aliases.
Two runs are compared, of a statement and of the renumbered one, in contexts
that have the same names under both numberings.  Errors and events may mention
numbers; but one run completes exactly if the other does, and then both have
written the same (`Script.SameOutcome`).
-/

namespace SqlWeave

namespace Script

/-- What a script writes, if it is written to its end. -/
def outcome (script : Script) : Option (List Fragment) :=
  if script.Completes then some script.fragments else none

theorem outcome_eq_some_iff {script : Script} {fragments : List Fragment} :
    script.outcome = some fragments ↔
      script.Completes ∧ fragments = script.fragments := by
  rw [outcome]
  split
  · next completes => simp [completes, eq_comm]
  · next failing => simp [failing]

theorem outcome_fail (error : QueryError) : (fail error).outcome = none :=
  if_neg (not_completes_fail error)

theorem outcome_append (first second : Script) :
    outcome (first ++ second) =
      first.outcome.bind fun front => second.outcome.map (front ++ ·) := by
  by_cases left : first.Completes
  · by_cases right : second.Completes
    · have both := (completes_append _ _).mpr ⟨left, right⟩
      rw [outcome, outcome, outcome, if_pos left, if_pos right, if_pos both,
        left.fragments_append]
      rfl
    · have neither := fun both => right ((completes_append first _).mp both).2
      rw [outcome, outcome, outcome, if_pos left, if_neg right, if_neg neither]
      rfl
  · have neither := fun both => left ((completes_append _ second).mp both).1
    rw [outcome, outcome, if_neg left, if_neg neither]
    rfl

theorem outcome_notes_append (events : List Event) (script : Script) :
    outcome (notes events ++ script) = script.outcome := by
  have continues : Completes (notes events ++ script) ↔ script.Completes := by
    simp
  rw [outcome, outcome, (completes_notes events).fragments_append,
    fragments_notes, List.nil_append]
  exact if_congr continues rfl rfl

/-- Either script is written to its end if the other one is, and then the same
is written. -/
def SameOutcome (first second : Script) : Prop :=
  first.outcome = second.outcome

namespace SameOutcome

variable {first second third fourth : Script}

theorem refl (script : Script) : SameOutcome script script := rfl

/-- Failures are alike, whatever they say. -/
theorem fail (error error' : QueryError) :
    SameOutcome (Script.fail error) (Script.fail error') :=
  (outcome_fail error).trans (outcome_fail error').symm

theorem append (front : SameOutcome first second)
    (back : SameOutcome third fourth) :
    SameOutcome (first ++ third) (second ++ fourth) := by
  rw [SameOutcome, outcome_append, outcome_append, front, back]

theorem notes_append (events events' : List Event)
    (rest : SameOutcome first second) :
    SameOutcome (notes events ++ first) (notes events' ++ second) := by
  rw [SameOutcome, outcome_notes_append, outcome_notes_append, rest]

theorem keyword_append (word : Keyword) (rest : SameOutcome first second) :
    SameOutcome (Script.keyword word ++ first)
      (Script.keyword word ++ second) :=
  (refl _).append rest

theorem append_keyword (front : SameOutcome first second) (word : Keyword) :
    SameOutcome (first ++ Script.keyword word)
      (second ++ Script.keyword word) :=
  front.append (refl _)

theorem parens (inner : SameOutcome first second) :
    SameOutcome first.parens second.parens :=
  (inner.keyword_append _).append_keyword _

theorem parensIf (inner : SameOutcome first second) (wrapped : Bool) :
    SameOutcome (first.parensIf wrapped) (second.parensIf wrapped) := by
  cases wrapped with
  | false => exact inner
  | true => exact inner.parens

theorem commaSeparated {scripts scripts' : List Script}
    (each : List.Forall₂ SameOutcome scripts scripts') :
    SameOutcome (Script.commaSeparated scripts)
      (Script.commaSeparated scripts') := by
  induction each with
  | nil => exact refl _
  | cons head tail ih =>
      cases tail with
      | nil => exact head
      | cons next others => exact (head.append_keyword .comma).append ih

theorem ordering {scripts scripts' : List Script}
    (each : List.Forall₂ SameOutcome scripts scripts') :
    SameOutcome (orderingScript scripts) (orderingScript scripts') := by
  cases each with
  | nil => exact refl _
  | cons head tail =>
      exact keyword_append .orderBy (commaSeparated (.cons head tail))

end SameOutcome

end Script

open Script (SameOutcome)

variable {number : AliasId → AliasId}

/-- Of two results that are equal if they are no errors, both are the same value
or both are errors. -/
theorem ok_or_errors {Error Result : Type} {first second : Except Error Result}
    (same : ∀ result, second = .ok result ↔ first = .ok result) :
    (∃ result, first = .ok result ∧ second = .ok result) ∨
      ∃ error error', first = .error error ∧ second = .error error' := by
  cases first with
  | ok result => exact .inl ⟨result, rfl, (same result).mpr rfl⟩
  | error error =>
      cases second with
      | ok result => cases (same result).mp rfl
      | error error' => exact .inr ⟨error, error', rfl, rfl⟩

/-! ## What no number reaches -/

namespace Expr

theorem asBool?_renumber (number : AliasId → AliasId) (expr : Expr) :
    (expr.renumber number).asBool? = expr.asBool? := by
  cases expr <;> rfl

theorem wrapped_renumber (number : AliasId → AliasId) (parent : Operator)
    (operand : Expr) (onRight : Bool) :
    (operand.renumber number).wrapped parent onRight =
      operand.wrapped parent onRight := by
  cases operand <;> rfl

end Expr

namespace Context.Renumbers

variable {context context' : Context}

theorem operatorScript_eq (renumbers : Renumbers number context context')
    (operator : Operator) :
    operator.script context' = operator.script context := by
  rw [Operator.script, Operator.script, renumbers.dialect]

theorem limitsScript_eq (renumbers : Renumbers number context context')
    (limit offset : Option Int64) :
    limitsScript context' limit offset =
      limitsScript context limit offset := by
  unfold limitsScript
  rw [renumbers.dialect]

theorem tableScript_eq (renumbers : Renumbers number context context')
    (table : Table) : table.script context' = table.script context := by
  rw [Table.script, Table.script, renumbers.tablePath_eq]

end Context.Renumbers

/-- Constant filters are written alike. -/
theorem filterScript_sameOutcome (constant : Option Bool)
    {script script' : Script} (inner : SameOutcome script script') :
    SameOutcome (filterScript constant script)
      (filterScript constant script') := by
  cases constant with
  | none => exact inner.keyword_append _
  | some constant => cases constant <;> exact .refl _

section

variable {context context' : Context}
variable (renumbers : Context.Renumbers number context context')
include renumbers

/-! ## Columns and scopes -/

theorem Field.script_renumber (field : Field) :
    SameOutcome (field.script context)
      ((field.renumber number).script context') := by
  rw [script, script, renumbers.bareColumns]
  split
  · exact .refl _
  · rcases ok_or_errors (renumbers.fieldPath_eq_ok_iff field) with
      ⟨path, found, found'⟩ | ⟨error, error', failed, failed'⟩
    · rw [found, found']
      exact .refl _
    · rw [failed, failed']
      exact .fail error error'

theorem Select.itemsScript_renumber (select : Select) :
    SameOutcome (select.itemsScript context)
      ((select.renumber number).itemsScript context') := by
  have distinct : (select.renumber number).distinct = select.distinct := by
    cases select
    rfl
  rw [itemsScript, itemsScript, distinct, items_renumber, List.isEmpty_map,
    projection_renumber, List.map_map]
  refine .append (.refl _) ?_
  split
  · exact .refl _
  · apply SameOutcome.commaSeparated
    rw [List.forall₂_map_left_iff, List.forall₂_map_right_iff,
      List.forall₂_same]
    exact fun field _ => field.script_renumber renumbers

/-- The clauses of a statement are written alike if what they hold is. -/
theorem Select.clausesScript_renumber (select : Select)
    (sources : SameOutcome (select.sourceScript context)
      ((select.renumber number).sourceScript context'))
    (filtered : SameOutcome (select.filter.script context)
      ((select.filter.renumber number).script context'))
    (ordered : List.Forall₂ SameOutcome
      (OrderTerm.scripts context select.ordering)
      (OrderTerm.scripts context'
        (OrderTerm.renumberAll number select.ordering))) :
    SameOutcome (select.clausesScript context)
      ((select.renumber number).clausesScript context') := by
  have selected :=
    (select.itemsScript_renumber renumbers).append_keyword .fromSources
  have filters : SameOutcome
      (filterScript select.filter.asBool? (select.filter.script context))
      (filterScript (select.filter.renumber number).asBool?
        ((select.filter.renumber number).script context')) := by
    rw [select.filter.asBool?_renumber]
    exact filterScript_sameOutcome _ filtered
  have limits : SameOutcome
      (limitsScript context select.limit select.offset)
      (limitsScript context' select.limit select.offset) := by
    rw [renumbers.limitsScript_eq]
    exact .refl _
  have body := ((selected.append sources).append filters).append
    (SameOutcome.ordering ordered)
  cases select
  exact (body.append limits).append (.refl _)

/-- Both statements pass the same checks and register the same names. -/
theorem Select.inScope_renumber (select : Select)
    {body body' : Context → Script}
    (inner : ∀ scope scope', Context.Renumbers number scope scope' →
      SameOutcome (body scope) (body' scope')) :
    SameOutcome (select.inScope context body)
      ((select.renumber number).inScope context' body') := by
  have forUpdate : (select.renumber number).forUpdate = select.forUpdate := by
    cases select
    rfl
  rw [inScope, inScope, forUpdate, renumbers.dialect]
  split
  · exact .fail _ _
  · rw [chain?_renumber]
    cases target : select.chain? with
    | none => exact .fail _ _
    | some chain =>
        dsimp only [Option.map]
        rw [missingItem?_renumber renumbers.injective]
        cases missing : select.missingItem? chain with
        | some item => exact .fail _ _
        | none =>
            have refs := select.refs_renumber number target
            obtain ⟨failure, names⟩ :=
              renumbers.innerNames.registerAll renumbers.injective
                select.refs
            rw [← refs] at failure names
            dsimp only [Option.map]
            rw [show (context'.innerNames.registerAll
              ((select.renumber number).aliases.map Alias.ref)).failure =
                (context.innerNames.registerAll
                  (select.aliases.map Alias.ref)).failure from failure]
            refine .notes_append _ _ ?_
            cases (context.innerNames.registerAll
              (select.aliases.map Alias.ref)).failure with
            | some error => exact .refl _
            | none => exact inner _ _ (renumbers.enter names)

end

/-! ## Statements -/

mutual

theorem Expr.script_renumber {context context' : Context}
    (renumbers : Context.Renumbers number context context') :
    (expr : Expr) →
      SameOutcome (expr.script context)
        ((expr.renumber number).script context')
  | .value _ => .refl _
  | .field field => field.script_renumber renumbers
  | .query select => (Select.script_renumber renumbers select).parens
  | .unary operator operand => by
      rw [Expr.renumber, Expr.script, Expr.script, operand.wrapped_renumber,
        renumbers.operatorScript_eq]
      exact .append (.refl _)
        ((Expr.script_renumber renumbers operand).parensIf _)
  | .binary operator left right => by
      rw [Expr.renumber, Expr.script, Expr.script, left.wrapped_renumber,
        right.wrapped_renumber, renumbers.operatorScript_eq]
      exact (((Expr.script_renumber renumbers left).parensIf _).append
        (.refl _)).append ((Expr.script_renumber renumbers right).parensIf _)

theorem Select.script_renumber {context context' : Context}
    (renumbers : Context.Renumbers number context context') :
    (select : Select) →
      SameOutcome (select.script context)
        ((select.renumber number).script context')
  | ⟨items, chain, filter, ordering, limit, offset, distinct, forUpdate⟩ => by
      rw [Select.script_eq_inScope, Select.script_eq_inScope]
      apply Select.inScope_renumber renumbers
      intro scope scope' inner
      apply Select.clausesScript_renumber inner
      case sources =>
        cases chain with
        | some chain => exact Chain.script_renumber inner chain
        | none => exact SelectItem.firstSourceScript_renumber inner items
      case filtered => exact Expr.script_renumber inner filter
      case ordered => exact OrderTerm.scripts_renumber inner ordering

theorem SelectItem.firstSourceScript_renumber {context context' : Context}
    (renumbers : Context.Renumbers number context context') :
    (items : List SelectItem) →
      SameOutcome (SelectItem.firstSourceScript context items)
        (SelectItem.firstSourceScript context'
          (SelectItem.renumberAll number items))
  | [] => .refl _
  | .source source :: _ => Source.script_renumber renumbers source
  | .field field :: rest => by
      rw [SelectItem.renumberAll, SelectItem.renumber,
        SelectItem.firstSourceScript, SelectItem.firstSourceScript,
        Field.renumber, Option.isNone_map, renumbers.tableScript_eq]
      split
      · exact .refl _
      · exact SelectItem.firstSourceScript_renumber renumbers rest

theorem OrderTerm.scripts_renumber {context context' : Context}
    (renumbers : Context.Renumbers number context context') :
    (terms : List OrderTerm) →
      List.Forall₂ SameOutcome (OrderTerm.scripts context terms)
        (OrderTerm.scripts context' (OrderTerm.renumberAll number terms))
  | [] => .nil
  | ⟨expr, direction, none⟩ :: rest =>
      .cons ((Expr.script_renumber renumbers expr).append_keyword _)
        (OrderTerm.scripts_renumber renumbers rest)
  | ⟨expr, direction, some nulls⟩ :: rest => by
      refine .cons ?_ (OrderTerm.scripts_renumber renumbers rest)
      have directed := (Expr.script_renumber renumbers expr).append_keyword
        direction.keyword
      rw [OrderTerm.renumber, OrderTerm.script, OrderTerm.script,
        renumbers.dialect]
      split
      · exact directed.append_keyword _
      · exact .fail _ _

theorem Chain.script_renumber {context context' : Context}
    (renumbers : Context.Renumbers number context context') :
    (chain : Chain) →
      SameOutcome (chain.script context)
        ((chain.renumber number).script context')
  | .source source => Source.script_renumber renumbers source
  | .join join => Join.script_renumber renumbers join

theorem Join.script_renumber {context context' : Context}
    (renumbers : Context.Renumbers number context context') :
    (join : Join) →
      SameOutcome (join.script context)
        ((join.renumber number).script context')
  | ⟨left, kind, right, predicate⟩ => by
      have sides := ((Chain.script_renumber renumbers left).append_keyword
        kind.keyword).append (Source.script_renumber renumbers right)
      cases predicate with
      | some predicate =>
          rw [Join.renumber, Join.script, Join.script]
          exact sides.append ((Expr.script_renumber renumbers
            predicate).keyword_append .onPredicate)
      | none =>
          rw [Join.renumber, Join.script, Join.script]
          refine sides.append ?_
          split
          · exact .fail _ _
          · exact .refl _

theorem Source.script_renumber {context context' : Context}
    (renumbers : Context.Renumbers number context context') :
    (source : Source) →
      SameOutcome (source.script context)
        ((source.renumber number).script context')
  | .table table => by
      rw [Source.renumber, Source.script, Source.script,
        renumbers.tableScript_eq]
      exact .refl _
  | .aliased renamed => Alias.script_renumber renumbers renamed

theorem Alias.script_renumber {context context' : Context}
    (renumbers : Context.Renumbers number context context') :
    (renamed : Alias) →
      SameOutcome (renamed.script context)
        ((renamed.renumber number).script context')
  | ⟨ref, target⟩ => by
      rw [Alias.renumber, Alias.script, Alias.script]
      rcases ok_or_errors (renumbers.nameOfRef_eq_ok_iff ref) with
        ⟨name, found, found'⟩ | ⟨error, error', failed, failed'⟩
      · rw [found, found']
        exact ((AliasTarget.script_renumber renumbers
          target).append_keyword _).append (.refl _)
      · rw [failed, failed']
        exact .fail error error'

theorem AliasTarget.script_renumber {context context' : Context}
    (renumbers : Context.Renumbers number context context') :
    (target : AliasTarget) →
      SameOutcome (target.script context)
        ((target.renumber number).script context')
  | .table table => by
      rw [AliasTarget.renumber, AliasTarget.script, AliasTarget.script,
        renumbers.tableScript_eq]
      exact .refl _
  | .join join => (Join.script_renumber renumbers join).parens
  | .query select => (Select.script_renumber renumbers select).parens

end

mutual

theorem Operand.script_renumber {context context' : Context}
    (renumbers : Context.Renumbers number context context') :
    (operand : Operand) →
      SameOutcome (operand.script context)
        ((operand.renumber number).script context')
  | .select select => by
      rw [Operand.renumber, Operand.script, Operand.script, Operand.wrapped,
        Operand.wrapped, renumbers.dialect]
      exact (Select.script_renumber renumbers select).parensIf _
  | .compound compound => by
      rw [Operand.renumber, Operand.script, Operand.script, Operand.wrapped,
        Operand.wrapped, renumbers.dialect]
      exact (Compound.script_renumber renumbers compound).parensIf _

theorem Compound.script_renumber {context context' : Context}
    (renumbers : Context.Renumbers number context context') :
    (compound : Compound) →
      SameOutcome (compound.script context)
        ((compound.renumber number).script context')
  | ⟨left, operator, right, ordering, limit, offset⟩ => by
      have sides := ((Operand.script_renumber renumbers left).append_keyword
        operator.keyword).append (Operand.script_renumber renumbers right)
      have ordered := SameOutcome.ordering
        (OrderTerm.scripts_renumber renumbers.withBareColumns ordering)
      rw [Compound.renumber, Compound.script, Compound.script,
        renumbers.limitsScript_eq]
      exact (sides.append ordered).append (.refl _)

end

theorem OrderTerm.script_renumber {context context' : Context}
    (renumbers : Context.Renumbers number context context')
    (term : OrderTerm) :
    SameOutcome (term.script context)
      ((term.renumber number).script context') := by
  have alone := OrderTerm.scripts_renumber renumbers [term]
  cases alone with
  | cons head _ => exact head

theorem Node.script_renumber {context context' : Context}
    (renumbers : Context.Renumbers number context context') (node : Node) :
    SameOutcome (node.script context)
      ((node.renumber number).script context') := by
  cases node with
  | keyword word => exact .refl _
  | path name => exact .refl _
  | value constant => exact .refl _
  | table declared => exact Source.script_renumber renumbers (.table declared)
  | aliased renamed => exact Alias.script_renumber renumbers renamed
  | join chain => exact Join.script_renumber renumbers chain
  | field column => exact Field.script_renumber renumbers column
  | expr held => exact Expr.script_renumber renumbers held
  | term ordered => exact OrderTerm.script_renumber renumbers ordered
  | select query => exact Select.script_renumber renumbers query
  | compound query => exact Compound.script_renumber renumbers query

namespace Database

theorem compile_eq_ok_iff_outcome (database : Database) (node : Node)
    (statement : Statement) :
    (database.compile node).result = .ok statement ↔
      statement.dialect = database.dialect ∧
        (node.script database.context).outcome =
          some statement.fragments := by
  obtain ⟨dialect, fragments⟩ := statement
  rw [compile_eq_ok_iff, Script.outcome_eq_some_iff, Statement.mk.injEq,
    and_left_comm]

/-- A statement compiles if and only if it does with all of its aliases
renumbered, and to the same fragments: the numbers of aliases do not show.
Neither does the order in which the names of the scopes around it are held. -/
theorem compile_renumber (database : Database) (node : Node)
    {number : AliasId → AliasId} (injective : Function.Injective number) :
    (∀ statement,
      (database.compile (node.renumber number)).result = .ok statement ↔
        (database.compile node).result = .ok statement) ∧
    ∀ context context', Context.Renumbers number context context' →
      ((node.renumber number).script context').outcome =
        (node.script context).outcome := by
  constructor
  · intro statement
    have renumbers : Context.Renumbers number database.context
        database.context := .of_scopes_eq_nil injective rfl
    rw [compile_eq_ok_iff_outcome, compile_eq_ok_iff_outcome,
      ← node.script_renumber renumbers]
  · intro context context' renumbers
    exact (node.script_renumber renumbers).symm

end Database

/-- Two aliases with exchanged numbers. -/
def AliasId.exchange : AliasId → AliasId := Equiv.swap ⟨1⟩ ⟨2⟩

theorem AliasId.exchange_injective : Function.Injective exchange :=
  (Equiv.swap _ _).injective

/-- The context within a statement that has named its aliases. -/
def Context.naming (entries : List (AliasId × String)) : Context :=
  (outermost .generic none).enter ⟨entries, []⟩

/-- Both names are held for the exchanged aliases, in the other order. -/
theorem Context.naming_renumbers : Renumbers AliasId.exchange
    (naming [(⟨1⟩, "t1"), (⟨2⟩, "t2")]) (naming [(⟨1⟩, "t2"), (⟨2⟩, "t1")]) := by
  refine (Renumbers.of_scopes_eq_nil AliasId.exchange_injective rfl).enter ?_
  exact ⟨⟨by decide, by decide⟩, by decide, fun _ => Iff.rfl⟩

namespace Database

/-- Whichever copy of a table comes first is called `t1`, and `t3` within a
statement that has used `t1` and `t2`. -/
theorem compile_renumber_crossed :
    ∃ statement fragments,
      (compile ⟨.generic, none⟩ (.select
          (.crossed (.copy 1 none) (.copy 2 none)))).result = .ok statement ∧
      (compile ⟨.generic, none⟩ (.select
          (.crossed (.copy 2 none) (.copy 1 none)))).result = .ok statement ∧
      (Node.script (.naming [(⟨1⟩, "t1"), (⟨2⟩, "t2")])
          (.select (.crossed (.copy 1 none) (.copy 3 none)))).outcome =
        some fragments ∧
      (Node.script (.naming [(⟨1⟩, "t2"), (⟨2⟩, "t1")])
          (.select (.crossed (.copy 2 none) (.copy 3 none)))).outcome =
        some fragments := by
  have alone := compile_renumber ⟨.generic, none⟩
    (.select (.crossed (.copy 1 none) (.copy 2 none)))
    AliasId.exchange_injective
  have within := compile_renumber ⟨.generic, none⟩
    (.select (.crossed (.copy 1 none) (.copy 3 none)))
    AliasId.exchange_injective
  exact ⟨_, _, rfl, (alone.1 _).mpr rfl, rfl,
    within.2 _ _ Context.naming_renumbers⟩

end Database

end SqlWeave
