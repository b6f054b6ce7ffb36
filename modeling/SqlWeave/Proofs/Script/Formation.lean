import SqlWeave.Compile.Statement
import SqlWeave.Proofs.Script.Nesting

/-!
# How scripts of statements are formed

Every script of a statement is put together from single steps by joining and by
parentheses around a whole script.  What is closed under these forms holds of
all scripts, without another recursion on the syntax of statements; that the
fragments of a script that completes are nested is one such fact.
-/

namespace SqlWeave

/-- The keywords of clauses, of joins and of set operators. -/
def Keyword.clauses : List Keyword :=
  [select, distinct, allColumns, fromSources, whereFilter, orderBy, limit,
    offset, forUpdate, asName, onPredicate, ascending, descending, nullsFirst,
    nullsLast, null, alwaysFalse, comma] ++
  ([.inner, .leftOuter, .rightOuter, .full, .fullOuter, .cross, .natural,
    .lateral, .leftLateral] : List JoinKind).map JoinKind.keyword ++
  ([.union, .unionAll, .intersect, .except] : List SetOperator).map
    SetOperator.keyword

/-- A script whose keywords, parentheses around a whole script apart, all are
among `words`. -/
inductive Script.Formed (words : Keyword → Prop) : Script → Prop where
  | nil : Formed words []
  | keyword {word : Keyword} (allowed : words word) :
      Formed words (Script.keyword word)
  | name (path : Path) : Formed words (Script.name path)
  | parameter (value : Value) : Formed words (Script.parameter value)
  | fail (error : QueryError) : Formed words (Script.fail error)
  | notes (events : List Event) : Formed words (Script.notes events)
  | append {first second : Script} (left : Formed words first)
      (right : Formed words second) : Formed words (first ++ second)
  | parens {script : Script} (inner : Formed words script) :
      Formed words script.parens

namespace Script.Formed

variable {words : Keyword → Prop}

theorem parensIf {script : Script} (inner : Formed words script)
    (wrapped : Bool) : Formed words (script.parensIf wrapped) := by
  cases wrapped with
  | false => exact inner
  | true => exact inner.parens

theorem commaSeparated {scripts : List Script} (comma : words .comma)
    (each : ∀ script ∈ scripts, Formed words script) :
    Formed words (Script.commaSeparated scripts) := by
  induction scripts with
  | nil => exact .nil
  | cons script rest ih =>
      have head : Formed words script := each script List.mem_cons_self
      have tail : Formed words (Script.commaSeparated rest) :=
        ih fun other member => each other (List.mem_cons_of_mem _ member)
      cases rest with
      | nil => exact head
      | cons next others => exact (head.append (.keyword comma)).append tail

/-- If no other keyword is a parenthesis, a script that completes leaves none
without its partner. -/
theorem nested {script : Script} (formed : Formed words script)
    (plain : ∀ word, words word → word.IsPlain) (completes : Completes script) :
    Fragment.Nested (fragments script) := by
  induction formed with
  | nil => exact .nil
  | @keyword word allowed =>
      obtain ⟨notOpen, notClose⟩ := plain word allowed
      refine (Fragment.Nested.cons_iff ?_ ?_ []).mpr .nil
      · simpa [Fragment.opens] using notOpen
      · simpa [Fragment.closes] using notClose
  | name path => exact (Fragment.Nested.cons_iff rfl rfl []).mpr .nil
  | parameter value => exact (Fragment.Nested.cons_iff rfl rfl []).mpr .nil
  | fail error => exact absurd completes (not_completes_fail error)
  | notes events => simp
  | append left right leftIH rightIH =>
      obtain ⟨first, second⟩ := (completes_append _ _).mp completes
      rw [first.fragments_append]
      exact (leftIH first).append (rightIH second)
  | parens inner ih =>
      have within := (completes_parens _).mp completes
      rw [within.fragments_parens]
      exact (ih within).enclosed

/-- A script that completes holds no other keywords. -/
theorem of_keyword_mem {script : Script} (formed : Formed words script)
    (opening : words .openParen) (closing : words .closeParen)
    (completes : Completes script) {word : Keyword}
    (member : .keyword word ∈ fragments script) : words word := by
  induction formed with
  | nil => cases member
  | keyword allowed =>
      cases List.mem_singleton.mp member
      exact allowed
  | name path => cases List.mem_singleton.mp member
  | parameter value => cases List.mem_singleton.mp member
  | fail error => exact absurd completes (not_completes_fail error)
  | notes events =>
      rw [fragments_notes] at member
      cases member
  | append left right leftIH rightIH =>
      obtain ⟨first, second⟩ := (completes_append _ _).mp completes
      rw [first.fragments_append] at member
      rcases List.mem_append.mp member with earlier | later
      · exact leftIH first earlier
      · exact rightIH second later
  | parens inner ih =>
      have within := (completes_parens _).mp completes
      rw [within.fragments_parens] at member
      rcases List.mem_cons.mp member with first | later
      · cases first
        exact opening
      · rcases List.mem_append.mp later with inside | last
        · exact ih within inside
        · cases List.mem_singleton.mp last
          exact closing

end Script.Formed

/-! ## The parts of statements -/

/-- All operators of a dialect and all keywords of clauses are among `words`. -/
structure Dialect.Spells (dialect : Dialect) (words : Keyword → Prop) :
    Prop where
  operator : ∀ operator, words (dialect.operatorKeyword operator)
  clause : ∀ word ∈ Keyword.clauses, words word

theorem Dialect.Spells.write {dialect : Dialect} {words : Keyword → Prop}
    (spells : dialect.Spells words) {word : Keyword}
    (known : word ∈ Keyword.clauses) : (Script.keyword word).Formed words :=
  .keyword (spells.clause word known)

variable {words : Keyword → Prop} {context : Context}

theorem Value.boundScript_formed (value : Value) :
    value.boundScript.Formed words := by
  cases value with
  | list items => exact .fail _
  | _ => exact .parameter _

theorem Value.script_formed (spells : context.dialect.Spells words)
    (value : Value) : value.script.Formed words := by
  cases value with
  | null => exact spells.write (by decide)
  | list items =>
      rw [Value.script, Value.listScript]
      split
      · exact .fail _
      · refine .parens (.commaSeparated (spells.clause _ (by decide)) ?_)
        intro script member
        obtain ⟨item, _, rfl⟩ := List.mem_map.mp member
        exact item.boundScript_formed
  | _ => exact .parameter _

theorem Field.script_formed (context : Context) (field : Field) :
    (field.script context).Formed words := by
  rw [Field.script]
  split
  · exact .name _
  · split
    · exact .name _
    · exact .fail _

theorem orderingScript_formed (context : Context)
    (spells : context.dialect.Spells words)
    {terms : List Script} (each : ∀ term ∈ terms, term.Formed words) :
    (orderingScript terms).Formed words := by
  rw [orderingScript]
  split
  · exact .nil
  · exact .append (spells.write (by decide))
      (.commaSeparated (spells.clause _ (by decide)) each)

theorem filterScript_formed (context : Context)
    (spells : context.dialect.Spells words)
    (constant : Option Bool) {script : Script} (inner : script.Formed words) :
    (filterScript constant script).Formed words := by
  have lead : (Script.keyword .whereFilter).Formed words :=
    spells.write (by decide)
  match constant with
  | some true => exact .nil
  | some false => exact lead.append (spells.write (by decide))
  | none => exact lead.append inner

theorem limitsScript_formed (context : Context)
    (spells : context.dialect.Spells words)
    (limit offset : Option Int64) :
    (limitsScript context limit offset).Formed words := by
  have counted (word : Keyword) (known : word ∈ Keyword.clauses)
      (count : Int64) :
      (Script.keyword word ++ Script.parameter (.int count)).Formed words :=
    .append (spells.write known) (.parameter _)
  unfold limitsScript
  refine .append ?_ ?_
  · split
    · exact counted .limit (by decide) _
    · exact .nil
  · split
    · exact counted .offset (by decide) _
    · exact .nil

theorem Select.itemsScript_formed (context : Context)
    (spells : context.dialect.Spells words)
    (select : Select) : (select.itemsScript context).Formed words := by
  rw [Select.itemsScript]
  refine .append (.append (spells.write (by decide)) ?_) ?_
  · split
    · exact spells.write (by decide)
    · exact .nil
  · split
    · exact spells.write (by decide)
    · refine .commaSeparated (spells.clause _ (by decide)) ?_
      intro script member
      obtain ⟨field, _, rfl⟩ := List.mem_map.mp member
      exact field.script_formed context

theorem Select.inScope_formed (select : Select)
    {body : Context → Script}
    (inner : ∀ names, (body (context.enter names)).Formed words) :
    (select.inScope context body).Formed words := by
  rw [Select.inScope]
  split
  · exact .fail _
  · split
    · exact .fail _
    · split
      · exact .fail _
      · refine .append (.notes _) ?_
        split
        · exact .fail _
        · exact inner _

/-! ## Statements -/

theorem JoinKind.keyword_mem_clauses (kind : JoinKind) :
    kind.keyword ∈ Keyword.clauses := by
  cases kind <;> decide

theorem Direction.keyword_mem_clauses (direction : Direction) :
    direction.keyword ∈ Keyword.clauses := by
  cases direction <;> decide

theorem NullsOrder.keyword_mem_clauses (nulls : NullsOrder) :
    nulls.keyword ∈ Keyword.clauses := by
  cases nulls <;> decide

theorem SetOperator.keyword_mem_clauses (operator : SetOperator) :
    operator.keyword ∈ Keyword.clauses := by
  cases operator <;> decide

mutual

theorem Expr.script_formed (context : Context)
    (spells : context.dialect.Spells words) :
    (expr : Expr) → (expr.script context).Formed words
  | .value constant => constant.script_formed spells
  | .field field => field.script_formed context
  | .query select => (Select.script_formed context spells select).parens
  | .unary _ operand =>
      .append (.keyword (spells.operator _))
        ((Expr.script_formed context spells operand).parensIf _)
  | .binary _ left right =>
      .append
        (.append ((Expr.script_formed context spells left).parensIf _)
          (.keyword (spells.operator _)))
        ((Expr.script_formed context spells right).parensIf _)

theorem Select.script_formed (context : Context)
    (spells : context.dialect.Spells words) :
    (select : Select) → (select.script context).Formed words
  | ⟨items, chain, filter, ordering, limit, offset, distinct, forUpdate⟩ => by
      rw [Select.script]
      apply Select.inScope_formed
      intro names
      have source : (match chain with
          | some chain => chain.script (context.enter names)
          | none => SelectItem.firstSourceScript (context.enter names)
              items : Script).Formed words := by
        cases chain with
        | some chain =>
            exact Chain.script_formed (context.enter names) spells chain
        | none =>
            exact SelectItem.firstSourceScript_formed (context.enter names)
              spells items
      have filtered :=
        filterScript_formed (context.enter names) spells filter.asBool?
          (Expr.script_formed (context.enter names) spells filter)
      have ordered : (orderingScript
          (OrderTerm.scripts (context.enter names) ordering)).Formed words :=
        orderingScript_formed (context.enter names) spells
          (OrderTerm.scripts_formed (context.enter names) spells ordering)
      have limited :=
        limitsScript_formed (context.enter names) spells limit offset
      have selected := Select.itemsScript_formed (context.enter names) spells
        ⟨items, chain, filter, ordering, limit, offset, distinct, forUpdate⟩
      have locked :
          (if forUpdate then Script.keyword .forUpdate else []).Formed words := by
        split
        · exact spells.write (by decide)
        · exact .nil
      have sign : (Script.keyword .fromSources).Formed words :=
        spells.write (by decide)
      have sources := (selected.append sign).append source
      have body := (sources.append filtered).append ordered
      exact (body.append limited).append locked

theorem SelectItem.firstSourceScript_formed (context : Context)
    (spells : context.dialect.Spells words) :
    (items : List SelectItem) →
      (SelectItem.firstSourceScript context items).Formed words
  | [] => .nil
  | .source source :: _ => Source.script_formed context spells source
  | .field field :: rest => by
      rw [SelectItem.firstSourceScript]
      split
      · exact .name _
      · exact SelectItem.firstSourceScript_formed context spells rest

theorem OrderTerm.script_formed (context : Context)
    (spells : context.dialect.Spells words) :
    (term : OrderTerm) → (term.script context).Formed words
  | ⟨expr, direction, nulls⟩ => by
      have directed : (expr.script context ++
          Script.keyword direction.keyword : Script).Formed words :=
        (Expr.script_formed context spells expr).append
          (spells.write direction.keyword_mem_clauses)
      cases nulls with
      | none => exact directed
      | some nulls =>
          rw [OrderTerm.script]
          split
          · exact directed.append
              (spells.write nulls.keyword_mem_clauses)
          · exact .fail _

theorem OrderTerm.scripts_formed (context : Context)
    (spells : context.dialect.Spells words) :
    (terms : List OrderTerm) →
      ∀ script ∈ OrderTerm.scripts context terms, script.Formed words
  | [] => by simp [OrderTerm.scripts]
  | term :: rest => by
      rw [OrderTerm.scripts, List.forall_mem_cons]
      exact ⟨OrderTerm.script_formed context spells term,
        OrderTerm.scripts_formed context spells rest⟩

theorem Chain.script_formed (context : Context)
    (spells : context.dialect.Spells words) :
    (chain : Chain) → (chain.script context).Formed words
  | .source source => Source.script_formed context spells source
  | .join join => Join.script_formed context spells join

theorem Join.script_formed (context : Context)
    (spells : context.dialect.Spells words) :
    (join : Join) → (join.script context).Formed words
  | ⟨left, kind, right, predicate⟩ => by
      have sides : (left.script context ++ Script.keyword kind.keyword ++
          right.script context : Script).Formed words :=
        ((Chain.script_formed context spells left).append
          (spells.write kind.keyword_mem_clauses)).append
            (Source.script_formed context spells right)
      cases predicate with
      | some predicate =>
          rw [Join.script]
          exact sides.append (.append (spells.write (by decide))
            (Expr.script_formed context spells predicate))
      | none =>
          rw [Join.script]
          refine sides.append ?_
          split
          · exact .fail _
          · exact .nil

theorem Source.script_formed (context : Context)
    (spells : context.dialect.Spells words) :
    (source : Source) → (source.script context).Formed words
  | .table _ => .name _
  | .aliased renamed => Alias.script_formed context spells renamed

theorem Alias.script_formed (context : Context)
    (spells : context.dialect.Spells words) :
    (renamed : Alias) → (renamed.script context).Formed words
  | ⟨ref, target⟩ => by
      rw [Alias.script]
      split
      · exact .append (.append (AliasTarget.script_formed context spells target)
          (spells.write (by decide))) (.name _)
      · exact .fail _

theorem AliasTarget.script_formed (context : Context)
    (spells : context.dialect.Spells words) :
    (target : AliasTarget) → (target.script context).Formed words
  | .table _ => .name _
  | .join join => (Join.script_formed context spells join).parens
  | .query select => (Select.script_formed context spells select).parens

end

mutual

theorem Operand.script_formed (context : Context)
    (spells : context.dialect.Spells words) :
    (operand : Operand) → (operand.script context).Formed words
  | .select select => (Select.script_formed context spells select).parensIf _
  | .compound compound =>
      (Compound.script_formed context spells compound).parensIf _

theorem Compound.script_formed (context : Context)
    (spells : context.dialect.Spells words) :
    (compound : Compound) → (compound.script context).Formed words
  | ⟨left, operator, right, ordering, limit, offset⟩ => by
      have sides : (left.script context ++ Script.keyword operator.keyword ++
          right.script context : Script).Formed words :=
        ((Operand.script_formed context spells left).append
          (spells.write operator.keyword_mem_clauses)).append
            (Operand.script_formed context spells right)
      have ordered : (orderingScript
          (OrderTerm.scripts context.withBareColumns ordering)).Formed words :=
        orderingScript_formed context spells
          (OrderTerm.scripts_formed context.withBareColumns spells ordering)
      rw [Compound.script]
      exact (sides.append ordered).append
        (limitsScript_formed context spells limit offset)

end

end SqlWeave
