import SqlWeave.Proofs.Folding.Adjacency
import SqlWeave.Proofs.Folding.NormalForm

/-!
# How expressions in normal form are written

Of an expression in normal form no `NOT` is written right behind another one.
Behind `=` and `<>` a `NULL` may be written nevertheless: as the first operand
of an operation that binds tighter, as in `x = NULL + 1`.  These are the only
cases (`Expr.Built.normal_written`), for all expressions that can be built and
all sub-queries in them.
-/

namespace SqlWeave

variable {context : Context}

/-! ## How an expression begins -/

theorem Expr.eq_null_of_isNull {expr : Expr} (null : expr.isNull = true) :
    expr = .value .null := by
  unfold Expr.isNull at null
  split at null
  · rfl
  · cases null

theorem Dialect.beginsOperand_parameter (dialect : Dialect) (level : Nat)
    (value : Value) (rest : List Fragment) :
    dialect.BeginsOperand level (.parameter value :: rest) :=
  ⟨_, rest, rfl, nofun, nofun⟩

theorem Dialect.beginsOperand_name (dialect : Dialect) (level : Nat)
    (path : Path) (rest : List Fragment) :
    dialect.BeginsOperand level (.name path :: rest) :=
  ⟨_, rest, rfl, nofun, nofun⟩

/-- A constant other than null begins like an operand. -/
theorem Value.beginsOperand (distinct : context.dialect.SpellsDistinctly)
    {level : Nat} {constant : Value} (completes : constant.script.Completes)
    (notNull : (Expr.value constant).isNull = false) :
    context.dialect.BeginsOperand level (Script.fragments constant.script) := by
  cases constant with
  | null => cases notNull
  | list items =>
      rw [Value.script, Value.listScript] at completes ⊢
      split at completes
      · exact absurd completes (Script.not_completes_fail _)
      · next present =>
          have within := (Script.completes_parens _).mp completes
          rw [if_neg present, within.fragments_parens]
          exact distinct.beginsOperand_openParen _
  | _ => exact context.dialect.beginsOperand_parameter level _ []

namespace Expr

/-- An operand in parentheses begins like an operand whatever is inside. -/
theorem beginsOperand_parensIf (distinct : context.dialect.SpellsDistinctly)
    {level : Nat} {operand : Expr} {wrapped : Bool}
    (completes : (operand.script context).Completes)
    (bare : wrapped = false → context.dialect.BeginsOperand level
      (Script.fragments (operand.script context))) :
    context.dialect.BeginsOperand level
      (Script.fragments ((operand.script context).parensIf wrapped)) := by
  cases wrapped with
  | true =>
      rw [Script.parensIf, if_pos rfl, completes.fragments_parens]
      exact distinct.beginsOperand_openParen _
  | false => exact bare rfl

/-- An expression other than null that binds tighter than `NOT` begins with an
operand.  A `NULL` at its front is the left operand of an operation in it. -/
theorem beginsOperand (distinct : context.dialect.SpellsDistinctly)
    {level : Nat} (tight : 4 ≤ level) :
    (expr : Expr) → (expr.script context).Completes → expr.BindsFrom level →
      expr.isNull = false →
      context.dialect.BeginsOperand level
        (Script.fragments (expr.script context))
  | .value constant, completes, _, notNull =>
      Value.beginsOperand distinct completes notNull
  | .field column, completes, _, _ => by
      obtain ⟨path, written⟩ := Field.exists_fragments_eq completes
      rw [Expr.script, written]
      exact context.dialect.beginsOperand_name level path []
  | .query select, completes, _, _ => by
      have inner := (Script.completes_parens _).mp completes
      rw [Expr.script, inner.fragments_parens]
      exact distinct.beginsOperand_openParen _
  | .unary .not operand, _, binds, _ => by
      have loose : level ≤ 3 := binds (.unary .not) rfl
      omega
  | .unary .bitNot operand, _, _, _ => by
      refine ⟨.keyword (context.dialect.operatorKeyword (.unary .bitNot)),
        _, rfl, ?_, ?_⟩
      · intro same
        cases distinct.alone _ (by simp) _ (Fragment.keyword.inj same)
      · intro same
        exact absurd (Fragment.keyword.inj same) distinct.notNull
  | .binary operator left right, completes, binds, _ => by
      have level_le : level ≤ (Operator.binary operator).precedence :=
        binds _ rfl
      obtain ⟨front, _⟩ : (left.script context).Completes ∧
          (right.script context).Completes := by
        simpa [Expr.script, Operator.script] using completes
      rw [Expr.script, List.append_assoc,
        ((Script.completes_parensIf _ _).mpr front).fragments_append]
      by_cases null : left.isNull = true
      · -- The constant is followed by the operator.
        rw [eq_null_of_isNull null]
        refine ⟨.keyword .null, _, rfl, ?_, ?_⟩
        · intro same
          exact distinct.null_ne_negation (Fragment.keyword.inj same)
        · intro _
          exact ⟨operator, level_le, _, rfl⟩
      · apply Dialect.BeginsOperand.append
        apply beginsOperand_parensIf distinct front
        intro bare
        apply beginsOperand distinct tight left front
        · intro child root
          rw [Expr.wrapped, root] at bare
          exact Nat.le_trans level_le (Nat.le_trans
            (standardGrammar.binaryLevel_le_leftLevel operator)
            (Operator.leftLevel_le_precedence bare))
        · exact Bool.eq_false_iff.mpr null

/-- An operand of `NOT` that is no `NOT` itself and has no parentheses binds
tighter. -/
theorem bindsFrom_of_negated {operand : Expr}
    (single : operand.root? ≠ some (.unary .not))
    (bare : operand.wrapped (.unary .not) false = false) :
    operand.BindsFrom 4 := by
  intro child root
  rw [Expr.wrapped, root] at bare
  have atLeast : 3 ≤ child.precedence := Operator.le_precedence_of_unary bare
  rw [root] at single
  cases child with
  | unary operator =>
      cases operator with
      | not => exact absurd rfl single
      | bitNot => decide
  | binary operator =>
      exact Nat.lt_of_le_of_ne atLeast (Operator.precedence_ne .not operator)

end Expr

/-! ## Statements -/

section

variable (distinct : context.dialect.SpellsDistinctly)

theorem Field.script_proper (context : Context) (field : Field) :
    (field.script context).Proper context.dialect := by
  rw [Field.script]
  split
  · exact .name _
  · split
    · exact .name _
    · exact .fail _

include distinct

theorem Value.script_proper (value : Value) :
    value.script.Proper context.dialect := by
  cases value with
  | null => exact .clause distinct (by decide)
  | list items =>
      rw [Value.script, Value.listScript]
      split
      · exact .fail _
      · apply Script.Proper.parens distinct
        apply Script.Proper.commaSeparated distinct
        intro script member
        obtain ⟨item, _, rfl⟩ := List.mem_map.mp member
        cases item with
        | list items => exact .fail _
        | _ => exact .parameter _
  | _ => exact .parameter _

theorem Select.itemsScript_proper (select : Select) :
    (select.itemsScript context).Proper context.dialect := by
  rw [Select.itemsScript]
  apply Script.Proper.append
  · apply (Script.Proper.clause distinct (by decide)).append
    split
    · exact .clause distinct (by decide)
    · exact .nil
  · split
    · exact .clause distinct (by decide)
    · apply Script.Proper.commaSeparated distinct
      intro script member
      obtain ⟨field, _, rfl⟩ := List.mem_map.mp member
      exact field.script_proper context

/-- Behind a `NOT` in normal form stands no other one. -/
theorem Expr.unary_proper {operator : UnaryOperator} {operand : Expr}
    (normal : (Expr.unary operator operand).IsNormal)
    (inner : (operand.script context).Proper context.dialect) :
    ((Expr.unary operator operand).script context).Proper context.dialect := by
  intro completes
  obtain ⟨_, wrapped⟩ := (Script.completes_append _ _).mp completes
  have within := (Script.completes_parensIf _ _).mp wrapped
  rw [Expr.script, Operator.script,
    (Script.completes_keyword _).fragments_append]
  apply Dialect.AdmitsAll.cons_keyword
  · apply distinct.admits_unary
    rintro rfl
    by_cases null : operand.isNull = true
    · rw [Expr.eq_null_of_isNull null]
      refine ⟨.keyword .null, [], rfl, ?_⟩
      intro same
      exact distinct.null_ne_negation (Fragment.keyword.inj same)
    · have begins : context.dialect.BeginsOperand 4 _ :=
        Expr.beginsOperand_parensIf distinct within fun bare =>
          Expr.beginsOperand distinct (Nat.le_refl 4) operand within
            (Expr.bindsFrom_of_negated normal.2 bare)
            (Bool.eq_false_iff.mpr null)
      obtain ⟨first, rest, written, notNegation, _⟩ := begins
      exact ⟨first, rest, written, notNegation⟩
  · exact inner.parensIf distinct _ wrapped

/-- Behind an `=` or `<>` in normal form stands an operand other than null. -/
theorem Expr.binary_proper {operator : BinaryOperator} {left right : Expr}
    (normal : (Expr.binary operator left right).IsNormal)
    (front : (left.script context).Proper context.dialect)
    (back : (right.script context).Proper context.dialect) :
    ((Expr.binary operator left right).script context).Proper
      context.dialect := by
  intro completes
  obtain ⟨sides, wrapped⟩ := (Script.completes_append _ _).mp completes
  have before := ((Script.completes_append _ _).mp sides).1
  have within := (Script.completes_parensIf _ _).mp wrapped
  rw [Expr.script, List.append_assoc, before.fragments_append, Operator.script,
    (Script.completes_keyword _).fragments_append]
  apply (front.parensIf distinct _ before).append
  apply Dialect.AdmitsAll.cons_keyword
  · apply distinct.admits_binary
    intro equality
    apply Expr.beginsOperand_parensIf distinct within
    intro bare
    apply Expr.beginsOperand distinct (by decide) right within
    · intro child root
      rw [Expr.wrapped, root] at bare
      have tighter := Operator.lt_precedence_of_right bare
      rcases equality with rfl | rfl
      · exact tighter
      · exact tighter
    · rcases equality with rfl | rfl
      · exact normal
      · exact normal
  · exact back.parensIf distinct _ wrapped

end

/-- A statement is proper if its clauses are in its scope. -/
theorem Select.script_proper_of {context : Context} {select : Select}
    (distinct : (select.scope context).dialect.SpellsDistinctly)
    (source : (select.sourceScript (select.scope context)).Proper
      context.dialect)
    (filtered : (select.filter.script (select.scope context)).Proper
      context.dialect)
    (ordered : ∀ term ∈
      OrderTerm.scripts (select.scope context) select.ordering,
      term.Proper context.dialect) :
    (select.script context).Proper context.dialect := by
  intro completes
  obtain ⟨chain, admitted⟩ := admitted_of_completes completes
  have lock : Script.Proper context.dialect
      (if select.forUpdate then Script.keyword .forUpdate else []) := by
    split
    · exact .clause distinct (by decide)
    · exact .nil
  have sign : (Script.keyword .fromSources).Proper context.dialect :=
    .clause distinct (by decide)
  have sources := ((itemsScript_proper distinct select).append sign).append
    source
  have body := (sources.append
    (.filter distinct select.filter.asBool? filtered)).append
      (.ordering distinct ordered)
  have clauses : (select.clausesScript (select.scope context)).Proper
      context.dialect :=
    (body.append (.limits distinct _ _ _)).append lock
  rw [admitted.fragments_eq]
  exact clauses admitted.clauses

mutual

theorem Expr.script_proper (context : Context)
    (distinct : context.dialect.SpellsDistinctly) :
    (expr : Expr) → expr.Normal →
      (expr.script context).Proper context.dialect
  | .value constant, _ => constant.script_proper distinct
  | .field column, _ => column.script_proper context
  | .query select, normal =>
      (Select.script_proper context distinct select
        ((Expr.normal_query_iff select).mp normal)).parens distinct
  | .unary operator operand, normal => by
      obtain ⟨root, inner⟩ := (Expr.normal_unary_iff operator operand).mp normal
      exact Expr.unary_proper distinct root
        (Expr.script_proper context distinct operand inner)
  | .binary operator left right, normal => by
      obtain ⟨root, first, second⟩ :=
        (Expr.normal_binary_iff operator left right).mp normal
      exact Expr.binary_proper distinct root
        (Expr.script_proper context distinct left first)
        (Expr.script_proper context distinct right second)

theorem Select.script_proper (context : Context)
    (distinct : context.dialect.SpellsDistinctly) :
    (select : Select) → select.Built →
      (select.script context).Proper context.dialect
  | ⟨items, chain, filter, ordering, limit, offset, distinctRows, forUpdate⟩,
      .mk builtItems builtChain builtFilter builtOrdering => by
      apply Select.script_proper_of distinct
      case source =>
        cases chain with
        | some chain =>
            exact Chain.script_proper (Select.scope context _) distinct chain
              (builtChain chain rfl)
        | none =>
            exact SelectItem.firstSourceScript_proper (Select.scope context _)
              distinct items builtItems
      case filtered =>
        exact Expr.script_proper (Select.scope context _) distinct filter
          builtFilter.normal
      case ordered =>
        exact OrderTerm.scripts_proper (Select.scope context _) distinct
          ordering builtOrdering

theorem SelectItem.firstSourceScript_proper (context : Context)
    (distinct : context.dialect.SpellsDistinctly) :
    (items : List SelectItem) →
      (∀ source, .source source ∈ items → source.Built) →
      (SelectItem.firstSourceScript context items).Proper context.dialect
  | [], _ => .nil
  | .source source :: _, built =>
      Source.script_proper context distinct source
        (built source List.mem_cons_self)
  | .field field :: rest, built => by
      rw [SelectItem.firstSourceScript]
      split
      · exact .name _
      · exact SelectItem.firstSourceScript_proper context distinct rest
          fun source member => built source (List.mem_cons_of_mem _ member)

theorem OrderTerm.scripts_proper (context : Context)
    (distinct : context.dialect.SpellsDistinctly) :
    (terms : List OrderTerm) → (∀ term ∈ terms, term.expr.Built) →
      ∀ script ∈ OrderTerm.scripts context terms,
        script.Proper context.dialect
  | [], _ => nofun
  | ⟨expr, direction, nulls⟩ :: rest, built => by
      rw [List.forall_mem_cons] at built
      rw [OrderTerm.scripts, List.forall_mem_cons]
      constructor
      · have directed :=
          (Expr.script_proper context distinct expr built.1.normal).append
            (.clause distinct direction.keyword_mem_clauses)
        cases nulls with
        | none => exact directed
        | some nulls =>
            rw [OrderTerm.script]
            split
            · exact directed.append
                (.clause distinct nulls.keyword_mem_clauses)
            · exact .fail _
      · exact OrderTerm.scripts_proper context distinct rest built.2

theorem Chain.script_proper (context : Context)
    (distinct : context.dialect.SpellsDistinctly) :
    (chain : Chain) → chain.Built →
      (chain.script context).Proper context.dialect
  | .source source, .source inner =>
      Source.script_proper context distinct source inner
  | .join join, .join inner => Join.script_proper context distinct join inner

theorem Join.script_proper (context : Context)
    (distinct : context.dialect.SpellsDistinctly) :
    (join : Join) → join.Built →
      (join.script context).Proper context.dialect
  | ⟨left, kind, right, predicate⟩, .mk builtLeft builtRight builtPredicate =>
      by
      have sides :=
        ((Chain.script_proper context distinct left builtLeft).append
          (.clause distinct kind.keyword_mem_clauses)).append
            (Source.script_proper context distinct right builtRight)
      cases predicate with
      | some predicate =>
          rw [Join.script]
          exact sides.append ((Script.Proper.clause distinct (by decide)).append
            (Expr.script_proper context distinct predicate
              (builtPredicate predicate rfl).normal))
      | none =>
          rw [Join.script]
          apply sides.append
          split
          · exact .fail _
          · exact .nil

theorem Source.script_proper (context : Context)
    (distinct : context.dialect.SpellsDistinctly) :
    (source : Source) → source.Built →
      (source.script context).Proper context.dialect
  | .table _, _ => .name _
  | .aliased renamed, .aliased inner =>
      Alias.script_proper context distinct renamed inner

theorem Alias.script_proper (context : Context)
    (distinct : context.dialect.SpellsDistinctly) :
    (renamed : Alias) → renamed.target.Built →
      (renamed.script context).Proper context.dialect
  | ⟨ref, target⟩, built => by
      rw [Alias.script]
      split
      · exact ((AliasTarget.script_proper context distinct target built).append
          (.clause distinct (by decide))).append (.name _)
      · exact .fail _

theorem AliasTarget.script_proper (context : Context)
    (distinct : context.dialect.SpellsDistinctly) :
    (target : AliasTarget) → target.Built →
      (target.script context).Proper context.dialect
  | .table _, _ => .name _
  | .join join, .join inner =>
      (Join.script_proper context distinct join inner).parens distinct
  | .query select, .query inner =>
      (Select.script_proper context distinct select inner).parens distinct

end

namespace Expr

/-- The operations of an expression that can be built are in normal form.  What
is written for it never has a `NOT` behind another one, and has a `NULL` behind
`=` or `<>` only in front of an operator that binds tighter. -/
theorem Built.normal_written {expr : Expr} (built : expr.Built) :
    (∀ node ∈ expr.operations, node.IsNormal ∧
      ∃ operator, node.root? = some operator ∧
        (node.right? = none ↔ operator.isUnary = true)) ∧
    ∀ context : Context, context.dialect.SpellsDistinctly →
      (expr.script context).Completes →
      (¬ [.keyword (context.dialect.operatorKeyword (.unary .not)),
          .keyword (context.dialect.operatorKeyword (.unary .not))] <:+:
        Script.fragments (expr.script context)) ∧
      ∀ operator, operator = .eq ∨ operator = .ne →
        ∀ before after, Script.fragments (expr.script context) =
          before ++ .keyword (context.dialect.operatorKeyword
            (.binary operator)) :: .keyword .null :: after →
          context.dialect.BeginsBinary 5 after := by
  constructor
  · intro node member
    refine ⟨built.normal.operations node member, ?_⟩
    obtain ⟨operator, root⟩ := exists_root_of_mem_operations expr member
    exact ⟨operator, root, right?_eq_none_iff root⟩
  · intro context distinct completes
    have admitsAll := script_proper context distinct expr built.normal completes
    refine ⟨admitsAll.not_infix_negations, ?_⟩
    intro operator equality before after split
    exact admitsAll.beginsBinary_of_null equality split

/-- A constant compared with a sum that begins with null. -/
def shifted : Expr :=
  combine .eq (value (.int 1)) (combine .add (value .null) (value (.int 1)))

theorem shifted_built : shifted.Built :=
  .combine .eq (.value _) (.combine .add (.value _) (.value _))

/-- `? = NULL + ?` -/
theorem Built.normal_written_shifted :
    shifted.Built ∧ Dialect.mysql.SpellsDistinctly ∧
      (shifted.script (.outermost .mysql none)).Completes ∧
      ∀ before after,
        Script.fragments (shifted.script (.outermost .mysql none)) =
          before ++ .keyword (.between "=") :: .keyword .null :: after →
        Dialect.mysql.BeginsBinary 5 after := by
  have distinct : Dialect.mysql.SpellsDistinctly :=
    Dialect.spellsDistinctly_of_mem_presets _
      (by simp [Dialect.presets])
  have completes : (shifted.script (.outermost .mysql none)).Completes := rfl
  refine ⟨shifted_built, distinct, completes, ?_⟩
  exact (shifted_built.normal_written.2 (.outermost .mysql none) distinct
    completes).2 .eq (.inl rfl)

/-- Standard SQL with `~` spelled like `NOT`. -/
def respelled : Dialect :=
  Dialect.generic.withOperator (.unary .bitNot) (.leading "NOT")

/-- A `NULL` may stand right behind `=`, and in a dialect that does not spell its
operators distinctly a `NOT` right behind another one. -/
theorem not_forall_not_infix :
    (¬ ∀ expr : Expr, expr.Built →
      (expr.script (.outermost .generic none)).Completes →
      ¬ [.keyword (Dialect.generic.operatorKeyword (.binary .eq)),
          .keyword .null] <:+:
        Script.fragments (expr.script (.outermost .generic none))) ∧
    ¬ ∀ expr : Expr, expr.Built →
      (expr.script (.outermost respelled none)).Completes →
      ¬ [.keyword (respelled.operatorKeyword (.unary .not)),
          .keyword (respelled.operatorKeyword (.unary .not))] <:+:
        Script.fragments (expr.script (.outermost respelled none)) := by
  constructor
  · intro never
    apply never shifted shifted_built rfl
    exact ⟨[.parameter (.int 1)],
      [.keyword (.between "+"), .parameter (.int 1)], rfl⟩
  · intro never
    apply never (apply .not (apply .bitNot (value (.int 1))))
      (.apply .not (.apply .bitNot (.value _))) rfl
    exact ⟨[], [.parameter (.int 1)], rfl⟩

end Expr

end SqlWeave
