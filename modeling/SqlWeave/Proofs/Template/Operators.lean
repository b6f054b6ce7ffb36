import SqlWeave.Proofs.Script.Compiled
import SqlWeave.Proofs.Script.Scope
import SqlWeave.Proofs.Script.Sharing

/-!
# Operators of statements

The operators that a statement is written with, read off its tree.  Every other
keyword is fixed syntax, so what holds of fixed syntax holds of all keywords of
a statement exactly if it holds of the spellings of these operators
(`Operand.node_uses`).
-/

namespace SqlWeave

mutual

/-- The operators of an expression, those of its sub-queries among them, in the
order of writing. -/
def Expr.writtenOperators : Expr → List Operator
  | .value _ => []
  | .field _ => []
  | .query select => select.writtenOperators
  | .unary operator operand => .unary operator :: operand.writtenOperators
  | .binary operator left right =>
      left.writtenOperators ++ .binary operator :: right.writtenOperators

/-- The operators of a `SELECT`: those of what it selects from, of its filter
and of its ordering. -/
def Select.writtenOperators : Select → List Operator
  | ⟨items, chain, filter, ordering, _, _, _, _⟩ =>
      (match chain with
        | some chain => chain.writtenOperators
        | none => SelectItem.firstOperators items) ++
      filter.writtenOperators ++ OrderTerm.allOperators ordering

/-- The operators of the source of the first item that has one. -/
def SelectItem.firstOperators : List SelectItem → List Operator
  | [] => []
  | .source source :: _ => source.writtenOperators
  | .field field :: rest =>
      if field.binding.isNone then [] else SelectItem.firstOperators rest

/-- The operators of the terms of an ordering. -/
def OrderTerm.allOperators : List OrderTerm → List Operator
  | [] => []
  | ⟨expr, _, _⟩ :: rest =>
      expr.writtenOperators ++ OrderTerm.allOperators rest

/-- The operators of a chain. -/
def Chain.writtenOperators : Chain → List Operator
  | .source source => source.writtenOperators
  | .join join => join.writtenOperators

/-- The operators of a join: those of its sides, and then of its predicate. -/
def Join.writtenOperators : Join → List Operator
  | ⟨left, _, right, predicate⟩ =>
      left.writtenOperators ++ right.writtenOperators ++
        match predicate with
        | some predicate => predicate.writtenOperators
        | none => []

/-- The operators of a source. -/
def Source.writtenOperators : Source → List Operator
  | .table _ => []
  | .aliased renamed => renamed.writtenOperators

/-- The operators of an alias. -/
def Alias.writtenOperators : Alias → List Operator
  | ⟨_, target⟩ => target.writtenOperators

/-- The operators of what an alias renames. -/
def AliasTarget.writtenOperators : AliasTarget → List Operator
  | .table _ => []
  | .join join => join.writtenOperators
  | .query select => select.writtenOperators

end

mutual

/-- The operators of a statement. -/
def Operand.writtenOperators : Operand → List Operator
  | .select select => select.writtenOperators
  | .compound compound => compound.writtenOperators

/-- The operators of a compound statement: those of its operands and of its
ordering. -/
def Compound.writtenOperators : Compound → List Operator
  | ⟨left, _, right, ordering, _, _⟩ =>
      left.writtenOperators ++ right.writtenOperators ++
        OrderTerm.allOperators ordering

end

variable {words : Keyword → Prop} {dialect : Dialect}

namespace Script

variable {first second : Script} {operators others : List Operator}

/-- If the script completes, then all its keywords are among `words` exactly if
the spellings of the operators are. -/
def Uses (words : Keyword → Prop) (dialect : Dialect) (script : Script)
    (operators : List Operator) : Prop :=
  script.Completes →
    ((∀ word, .keyword word ∈ script.fragments → words word) ↔
      ∀ operator ∈ operators, words (dialect.operatorKeyword operator))

namespace Uses

/-- Nothing is said of operators where every keyword is known. -/
theorem of_forall {script : Script}
    (known : script.Completes →
      ∀ word, .keyword word ∈ script.fragments → words word) :
    script.Uses words dialect [] :=
  fun completes => by simpa using known completes

theorem nil : Uses words dialect [] [] :=
  of_forall fun _ _ member => nomatch member

theorem name (path : Path) : (Script.name path).Uses words dialect [] :=
  of_forall fun _ word member => by simp at member

theorem parameter (value : Value) :
    (Script.parameter value).Uses words dialect [] :=
  of_forall fun _ word member => by simp at member

theorem fail (error : QueryError) (operators : List Operator) :
    (Script.fail error).Uses words dialect operators :=
  fun completes => absurd completes (not_completes_fail error)

theorem append (front : first.Uses words dialect operators)
    (back : second.Uses words dialect others) :
    Uses words dialect (first ++ second) (operators ++ others) := by
  intro completes
  obtain ⟨left, right⟩ := (completes_append _ _).mp completes
  rw [left.fragments_append, List.forall_mem_append, ← front left,
    ← back right]
  simp only [List.mem_append, or_imp, forall_and]

theorem additive : Additive (Uses words dialect) where
  nil := nil
  append := append

theorem append_of_nil (front : first.Uses words dialect operators)
    (back : second.Uses words dialect []) :
    Uses words dialect (first ++ second) operators :=
  additive.append_of_nil front back

theorem of_nil_append (front : first.Uses words dialect [])
    (back : second.Uses words dialect others) :
    Uses words dialect (first ++ second) others :=
  additive.of_nil_append front back

/-- An operator is spelled as the dialect says. -/
theorem operator (operator : Operator) :
    (Script.keyword (dialect.operatorKeyword operator)).Uses words dialect
      [operator] := by
  intro _
  simp

variable (fixed : Keyword.Fixed words)

include fixed

theorem keywords :
    Keyword.Fixed fun word => (Script.keyword word).Uses words dialect [] := by
  intro word known
  apply of_forall
  intro _ other member
  cases List.mem_singleton.mp member
  exact fixed word known

theorem clause {word : Keyword} (known : word ∈ Keyword.clauses) :
    (Script.keyword word).Uses words dialect [] :=
  keywords fixed word
    (List.mem_cons_of_mem _ (List.mem_cons_of_mem _ known))

theorem parens (inner : first.Uses words dialect operators) :
    first.parens.Uses words dialect operators :=
  additive.parens (keywords fixed) inner

theorem parensIf (inner : first.Uses words dialect operators)
    (wrapped : Bool) :
    (first.parensIf wrapped).Uses words dialect operators :=
  additive.parensIf (keywords fixed) inner wrapped

theorem commaSeparated {scripts : List Script}
    (each : Share (Uses words dialect) scripts operators) :
    (Script.commaSeparated scripts).Uses words dialect operators :=
  additive.commaSeparated (keywords fixed) each

theorem ordering {scripts : List Script}
    (each : Share (Uses words dialect) scripts operators) :
    (orderingScript scripts).Uses words dialect operators :=
  additive.ordering (keywords fixed) each

end Uses

end Script

/-! ## Parts without operators -/

theorem Value.boundScript_uses (value : Value) :
    value.boundScript.Uses words dialect [] := by
  cases value with
  | list items => exact .fail _ _
  | _ => exact .parameter _

theorem Field.script_uses (context : Context) (field : Field) :
    (field.script context).Uses words dialect [] := by
  rw [Field.script]
  split
  · exact .name _
  · split
    · exact .name _
    · exact .fail _ _

section

variable (fixed : Keyword.Fixed words)

include fixed

theorem Value.script_uses (value : Value) :
    value.script.Uses words dialect [] := by
  cases value with
  | null => exact .clause fixed (by decide)
  | list items =>
      rw [Value.script, Value.listScript]
      split
      · exact .fail _ _
      · apply Script.Uses.parens fixed
        apply Script.Uses.commaSeparated fixed
        apply Script.Share.of_forall_nil
        simp only [List.forall_mem_map]
        exact fun item _ => item.boundScript_uses
  | _ => exact .parameter _

theorem limitsScript_uses (context : Context) (limit offset : Option Int64) :
    (limitsScript context limit offset).Uses words dialect [] := by
  have counted (word : Keyword) (known : word ∈ Keyword.clauses)
      (count : Int64) : Script.Uses words dialect
        (Script.keyword word ++ Script.parameter (.int count)) [] :=
    (Script.Uses.clause fixed known).append (.parameter _)
  unfold limitsScript
  apply Script.Uses.append_of_nil
  · split
    · exact counted .limit (by decide) _
    · exact .nil
  · split
    · exact counted .offset (by decide) _
    · exact .nil

theorem Select.itemsScript_uses (context : Context) (select : Select) :
    (select.itemsScript context).Uses words dialect [] := by
  rw [Select.itemsScript]
  apply Script.Uses.append_of_nil
  · apply Script.Uses.append_of_nil
    · exact .clause fixed (by decide)
    · split
      · exact .clause fixed (by decide)
      · exact .nil
  · split
    · exact .clause fixed (by decide)
    · apply Script.Uses.commaSeparated fixed
      apply Script.Share.of_forall_nil
      simp only [List.forall_mem_map]
      exact fun field _ => field.script_uses context

/-- A constant filter has no operators. -/
theorem filterScript_uses (filter : Expr) {script : Script}
    (inner : script.Uses words dialect filter.writtenOperators) :
    (filterScript filter.asBool? script).Uses words dialect
      filter.writtenOperators := by
  have leading : (Script.keyword .whereFilter).Uses words dialect [] :=
    .clause fixed (by decide)
  cases constant : filter.asBool? with
  | none => exact leading.of_nil_append inner
  | some held =>
      rw [Expr.eq_ofBool_of_asBool? constant]
      cases held with
      | true => exact .nil
      | false => exact leading.append (.clause fixed (by decide))

/-! ## Statements -/

/-- The clauses of a statement use the operators of its parts. -/
theorem Select.clausesScript_uses (context : Context) (select : Select)
    {source filter ordering : List Operator}
    (sources : (select.sourceScript context).Uses words context.dialect source)
    (filtered : (filterScript select.filter.asBool?
      (select.filter.script context)).Uses words context.dialect filter)
    (terms : Script.Share (Script.Uses words context.dialect)
      (OrderTerm.scripts context select.ordering) ordering) :
    (select.clausesScript context).Uses words context.dialect
      (source ++ filter ++ ordering) := by
  have leading : (Script.keyword .fromSources).Uses words context.dialect [] :=
    .clause fixed (by decide)
  have locked : (if select.forUpdate then Script.keyword .forUpdate
      else [] : Script).Uses words context.dialect [] := by
    split
    · exact .clause fixed (by decide)
    · exact .nil
  have opening := (select.itemsScript_uses fixed context).append leading
  have clauses :=
    ((opening.append sources).append filtered).append (.ordering fixed terms)
  exact (clauses.append_of_nil (limitsScript_uses fixed context select.limit
    select.offset)).append_of_nil locked

end

/-- A statement uses the operators of its clauses. -/
theorem Select.script_uses_of_clauses {context : Context} (select : Select)
    {operators : List Operator}
    (clauses : ∀ inner : Context, inner.dialect = context.dialect →
      (select.clausesScript inner).Uses words inner.dialect operators) :
    (select.script context).Uses words context.dialect operators := by
  intro completes
  obtain ⟨chain, admitted⟩ := admitted_of_completes completes
  rw [admitted.fragments_eq]
  exact clauses _ rfl admitted.clauses

mutual

theorem Expr.script_uses (fixed : Keyword.Fixed words)
    (context : Context) : (expr : Expr) →
    (expr.script context).Uses words context.dialect expr.writtenOperators
  | .value constant => constant.script_uses fixed
  | .field field => field.script_uses context
  | .query select => (Select.script_uses fixed context select).parens fixed
  | .unary operator operand =>
      (Script.Uses.operator _).append
        ((Expr.script_uses fixed context operand).parensIf fixed _)
  | .binary operator left right => by
      have front := ((Expr.script_uses fixed context left).parensIf fixed
        (left.wrapped (.binary operator) false)).append
          (Script.Uses.operator (.binary operator))
      have whole := front.append
        ((Expr.script_uses fixed context right).parensIf fixed
          (right.wrapped (.binary operator) true))
      rw [List.append_assoc left.writtenOperators] at whole
      exact whole

theorem Select.script_uses (fixed : Keyword.Fixed words)
    (context : Context) : (select : Select) →
    (select.script context).Uses words context.dialect select.writtenOperators
  | ⟨items, chain, filter, ordering, limit, offset, distinct, forUpdate⟩ => by
      apply Select.script_uses_of_clauses
      intro inner _
      have filtered :=
        filterScript_uses fixed filter (Expr.script_uses fixed inner filter)
      have ordered := OrderTerm.scripts_use fixed inner ordering
      cases chain with
      | some chain =>
          exact Select.clausesScript_uses fixed inner _
            (Chain.script_uses fixed inner chain) filtered ordered
      | none =>
          exact Select.clausesScript_uses fixed inner _
            (SelectItem.firstSourceScript_uses fixed inner items) filtered
              ordered

theorem SelectItem.firstSourceScript_uses (fixed : Keyword.Fixed words)
    (context : Context) :
    (items : List SelectItem) →
      (SelectItem.firstSourceScript context items).Uses words context.dialect
        (SelectItem.firstOperators items)
  | [] => .nil
  | .source source :: _ => Source.script_uses fixed context source
  | .field field :: rest => by
      rw [SelectItem.firstSourceScript, SelectItem.firstOperators]
      split
      · exact .name _
      · exact SelectItem.firstSourceScript_uses fixed context rest

theorem OrderTerm.scripts_use (fixed : Keyword.Fixed words)
    (context : Context) :
    (terms : List OrderTerm) →
      Script.Share (Script.Uses words context.dialect)
        (OrderTerm.scripts context terms) (OrderTerm.allOperators terms)
  | [] => .nil
  | ⟨expr, direction, none⟩ :: rest =>
      .cons ((Expr.script_uses fixed context expr).append_of_nil
        (.clause fixed direction.keyword_mem_clauses))
          (OrderTerm.scripts_use fixed context rest)
  | ⟨expr, direction, some nulls⟩ :: rest => by
      have directed := (Expr.script_uses fixed context expr).append_of_nil
        (.clause fixed direction.keyword_mem_clauses)
      rw [OrderTerm.scripts, OrderTerm.script]
      refine .cons ?_ (OrderTerm.scripts_use fixed context rest)
      split
      · exact directed.append_of_nil (.clause fixed nulls.keyword_mem_clauses)
      · exact .fail _ _

theorem Chain.script_uses (fixed : Keyword.Fixed words)
    (context : Context) : (chain : Chain) →
    (chain.script context).Uses words context.dialect chain.writtenOperators
  | .source source => Source.script_uses fixed context source
  | .join join => Join.script_uses fixed context join

theorem Join.script_uses (fixed : Keyword.Fixed words)
    (context : Context) : (join : Join) →
    (join.script context).Uses words context.dialect join.writtenOperators
  | ⟨left, kind, right, predicate⟩ => by
      have sides := ((Chain.script_uses fixed context left).append_of_nil
        (.clause fixed kind.keyword_mem_clauses)).append
          (Source.script_uses fixed context right)
      cases predicate with
      | some predicate =>
          rw [Join.script]
          exact sides.append ((Script.Uses.clause fixed (by decide)).append
            (Expr.script_uses fixed context predicate))
      | none =>
          rw [Join.script]
          apply sides.append
          split
          · exact .fail _ _
          · exact .nil

theorem Source.script_uses (fixed : Keyword.Fixed words)
    (context : Context) : (source : Source) →
    (source.script context).Uses words context.dialect source.writtenOperators
  | .table _ => .name _
  | .aliased renamed => Alias.script_uses fixed context renamed

theorem Alias.script_uses (fixed : Keyword.Fixed words)
    (context : Context) : (renamed : Alias) →
    (renamed.script context).Uses words context.dialect renamed.writtenOperators
  | ⟨ref, target⟩ => by
      rw [Alias.script, Alias.writtenOperators]
      split
      · exact ((AliasTarget.script_uses fixed context target).append_of_nil
          (.clause fixed (by decide))).append_of_nil (.name _)
      · exact .fail _ _

theorem AliasTarget.script_uses (fixed : Keyword.Fixed words)
    (context : Context) : (target : AliasTarget) →
    (target.script context).Uses words context.dialect target.writtenOperators
  | .table _ => .name _
  | .join join => (Join.script_uses fixed context join).parens fixed
  | .query select => (Select.script_uses fixed context select).parens fixed

end

mutual

theorem Operand.script_uses (fixed : Keyword.Fixed words)
    (context : Context) : (operand : Operand) →
    (operand.script context).Uses words context.dialect operand.writtenOperators
  | .select select => (Select.script_uses fixed context select).parensIf fixed _
  | .compound compound =>
      (Compound.script_uses fixed context compound).parensIf fixed _

theorem Compound.script_uses (fixed : Keyword.Fixed words)
    (context : Context) : (compound : Compound) →
    (compound.script context).Uses words context.dialect
      compound.writtenOperators
  | ⟨left, operator, right, ordering, limit, offset⟩ => by
      have sides := ((Operand.script_uses fixed context left).append_of_nil
        (.clause fixed operator.keyword_mem_clauses)).append
          (Operand.script_uses fixed context right)
      have ordered := Script.Uses.ordering fixed
        (OrderTerm.scripts_use fixed context.withBareColumns ordering)
      rw [Compound.script, Compound.writtenOperators]
      exact (sides.append ordered).append_of_nil
        (limitsScript_uses fixed context limit offset)

end

/-- What holds of fixed syntax holds of all keywords of a statement exactly if
it holds of the spellings of its operators. -/
theorem Operand.node_uses (fixed : Keyword.Fixed words)
    (context : Context) (operand : Operand) :
    (operand.node.script context).Uses words context.dialect
      operand.writtenOperators := by
  cases operand with
  | select query => exact query.script_uses fixed context
  | compound query => exact query.script_uses fixed context

end SqlWeave
