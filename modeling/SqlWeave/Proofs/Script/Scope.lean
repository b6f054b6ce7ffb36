import SqlWeave.Compile.Statement
import SqlWeave.Proofs.Script.Completion

/-!
# Scopes of statements

What a `SELECT` does before its clauses are written: it is checked, and its
aliases are registered in a new scope.  A `SELECT` that is written to its end
has passed all of this, and what it writes are its clauses in that scope
(`Select.admitted_of_completes`).
-/

namespace SqlWeave

/-- The aliases that an item brings along. -/
def SelectItem.aliases : SelectItem → List Alias
  | source held => held.aliases
  | field _ => []

/-- An expression that is a boolean constant is nothing else. -/
theorem Expr.eq_ofBool_of_asBool? {expr : Expr} {constant : Bool}
    (held : expr.asBool? = some constant) : expr = ofBool constant := by
  unfold asBool? at held
  split at held
  · rw [Option.some.inj held, ofBool]
  · cases held

/-! ## Columns -/

/-- A column of an alias is qualified by the name of the alias. -/
theorem Context.fieldPath_eq_ok_iff_of_bound (context : Context)
    {field : Field} {ref : AliasRef} (bound : field.binding = some ref)
    {path : Path} :
    context.fieldPath field = .ok path ↔
      ∃ name, context.nameOfRef ref = .ok name ∧
        path = ⟨[name, field.name]⟩ := by
  rw [fieldPath, bound]
  cases resolved : context.nameOfRef ref <;>
    simp [resolved, bind, Except.bind, pure, Except.pure, eq_comm]

/-- A column that is written is a name. -/
theorem Field.exists_path {context : Context} {field : Field}
    (completes : (field.script context).Completes) :
    ∃ path, field.script context = Script.name path := by
  rw [script] at completes ⊢
  split
  · exact ⟨_, rfl⟩
  · next qualified =>
      rw [if_neg qualified] at completes
      cases found : context.fieldPath field with
      | ok path => exact ⟨path, rfl⟩
      | error error =>
          rw [found] at completes
          exact absurd completes (Script.not_completes_fail error)

/-! ## Statements -/

namespace Select

/-- Without items nothing is selected but all columns. -/
theorem projection_eq_nil_of_isEmpty {select : Select}
    (empty : select.items.isEmpty = true) : select.projection = [] := by
  obtain ⟨items, _, _, _, _, _, _, _⟩ := select
  cases items with
  | nil => rfl
  | cons item rest => cases empty

theorem aliases_of_target {select : Select} {chain : Chain}
    (target : select.chain? = some chain) :
    select.aliases =
      select.items.flatMap SelectItem.aliases ++ chain.aliases := by
  rw [aliases, target]
  rfl

/-- The registration of the aliases of a statement. -/
def registration (context : Context) (select : Select) :
    AliasNames.Registration :=
  context.innerNames.registerAll (select.aliases.map Alias.ref)

/-- The context of the clauses of a statement. -/
def scope (context : Context) (select : Select) : Context :=
  context.enter (select.registration context).names

/-- The `FROM` target of a statement, or the source that stands in for it. -/
def sourceScript (context : Context) (select : Select) : Script :=
  match select.chain with
  | some chain => chain.script context
  | none => SelectItem.firstSourceScript context select.items

/-- The clauses of a statement in the order of writing. -/
def clausesScript (context : Context) (select : Select) : Script :=
  select.itemsScript context ++
  Script.keyword .fromSources ++
  select.sourceScript context ++
  filterScript select.filter.asBool? (select.filter.script context) ++
  orderingScript (OrderTerm.scripts context select.ordering) ++
  limitsScript context select.limit select.offset ++
  if select.forUpdate then Script.keyword .forUpdate else []

theorem script_eq_inScope (context : Context) (select : Select) :
    select.script context = select.inScope context select.clausesScript := by
  cases select
  rw [script]
  rfl

/-- A statement that passes its checks and registers its aliases goes on with
its clauses. -/
theorem script_eq_of_registered {context : Context} {select : Select}
    {chain : Chain}
    (lock : (select.forUpdate && !context.dialect.forUpdate) = false)
    (target : select.chain? = some chain)
    (items : select.missingItem? chain = none)
    (registered : (select.registration context).failure = none) :
    select.script context =
      Script.notes (select.registration context).events ++
        select.clausesScript (select.scope context) := by
  rw [script_eq_inScope, inScope, lock, target]
  simp only [Bool.false_eq_true, if_false, items]
  unfold registration at registered
  rw [registered]
  rfl

/-- The statement passes its checks and registers its aliases, and its clauses
are written to their end. -/
structure Admitted (context : Context) (select : Select) (chain : Chain) :
    Prop where
  lock : (select.forUpdate && !context.dialect.forUpdate) = false
  target : select.chain? = some chain
  items : select.missingItem? chain = none
  registered : (select.registration context).failure = none
  clauses : (select.clausesScript (select.scope context)).Completes

namespace Admitted

variable {context : Context} {select : Select} {chain : Chain}

theorem script_eq (admitted : Admitted context select chain) :
    select.script context =
      Script.notes (select.registration context).events ++
        select.clausesScript (select.scope context) :=
  script_eq_of_registered admitted.lock admitted.target admitted.items
    admitted.registered

theorem fragments_eq (admitted : Admitted context select chain) :
    Script.fragments (select.script context) =
      Script.fragments (select.clausesScript (select.scope context)) := by
  rw [admitted.script_eq, (Script.completes_notes _).fragments_append,
    Script.fragments_notes, List.nil_append]

end Admitted

theorem admitted_of_completes {context : Context} {select : Select}
    (completes : (select.script context).Completes) :
    ∃ chain, Admitted context select chain := by
  rw [script_eq_inScope, inScope] at completes
  cases lock : select.forUpdate && !context.dialect.forUpdate with
  | true =>
      rw [lock, if_pos rfl] at completes
      exact absurd completes (Script.not_completes_fail _)
  | false =>
      rw [lock, if_neg Bool.false_ne_true] at completes
      cases target : select.chain? with
      | none =>
          rw [target] at completes
          exact absurd completes (Script.not_completes_fail _)
      | some chain =>
          rw [target] at completes
          dsimp only at completes
          cases items : select.missingItem? chain with
          | some item =>
              rw [items] at completes
              exact absurd completes (Script.not_completes_fail _)
          | none =>
              rw [items] at completes
              have rest := ((Script.completes_append _ _).mp completes).2
              cases registered : (select.registration context).failure with
              | some error =>
                  unfold registration at registered
                  rw [registered] at rest
                  exact absurd rest (Script.not_completes_fail _)
              | none =>
                  unfold registration at registered
                  rw [registered] at rest
                  exact ⟨chain, lock, target, items, registered, rest⟩

/-- A statement begins with the keyword `SELECT`. -/
theorem fragments_eq_cons {context : Context} {select : Select}
    (completes : (select.script context).Completes) :
    ∃ body, Script.fragments (select.script context) =
      .keyword .select :: body := by
  obtain ⟨chain, admitted⟩ := admitted_of_completes completes
  rw [admitted.fragments_eq]
  exact ⟨_, rfl⟩

end Select

end SqlWeave
