import SqlWeave.Proofs.Defects.Parts
import SqlWeave.Proofs.Script.Compiled

/-!
# Blocks

Every part of a statement is a block: a name, a parameter or a keyword, a block
in parentheses, or blocks with keywords in front of them, behind them or between
them.  Two blocks never meet without a keyword in between.  What holds of all
blocks that are put together in this way, with each keyword in a role that it
can have, holds of the scripts of all statements (`Operand.script_block`).
-/

namespace SqlWeave

/-- What keywords can be used for between blocks. -/
structure Keyword.Roles where
  /-- The keyword can be a block by itself. -/
  alone : Keyword → Prop
  /-- The keyword can stand in front of a block. -/
  leads : Keyword → Prop
  /-- The keyword can stand behind a block. -/
  trails : Keyword → Prop
  /-- The keyword can stand between two blocks. -/
  joins : Keyword → Prop

/-- The keywords of clauses have the roles in which statements use them. -/
structure Keyword.Roles.Clausal (roles : Keyword.Roles) : Prop where
  alone : ∀ word ∈ [Keyword.allColumns, .null, .alwaysFalse], roles.alone word
  leads : ∀ word ∈ [Keyword.select, .distinct], roles.leads word
  trails : roles.trails .forUpdate
  direction : ∀ direction : Direction, roles.trails direction.keyword
  nulls : ∀ nulls : NullsOrder, roles.trails nulls.keyword
  joins : ∀ word ∈ [Keyword.fromSources, .whereFilter, .orderBy, .limit,
    .offset, .asName, .onPredicate, .comma], roles.joins word
  kind : ∀ kind : JoinKind, roles.joins kind.keyword
  operator : ∀ operator : SetOperator, roles.joins operator.keyword

/-- All ways to put a block together lead to another one. -/
structure Script.Blocks (roles : Keyword.Roles) (Block : Script → Prop) :
    Prop where
  clausal : roles.Clausal
  keyword {word : Keyword} : roles.alone word → Block (Script.keyword word)
  name {path : Path} : path.segments ≠ [] → Block (Script.name path)
  parameter (value : Value) : Block (Script.parameter value)
  /-- What stands before a failure does not matter. -/
  fail (before : Script) (error : QueryError) :
    Block (before ++ Script.fail error)
  notes (events : List Event) {script : Script} :
    Block script → Block (Script.notes events ++ script)
  parens {script : Script} : Block script → Block script.parens
  leading {word : Keyword} {script : Script} :
    roles.leads word → Block script → Block (Script.keyword word ++ script)
  trailing {word : Keyword} {script : Script} :
    Block script → roles.trails word → Block (script ++ Script.keyword word)
  between {word : Keyword} {first second : Script} :
    Block first → roles.joins word → Block second →
      Block (first ++ Script.keyword word ++ second)

/-- The operators of the dialect have the roles that expressions use them in. -/
structure Dialect.Operates (dialect : Dialect) (roles : Keyword.Roles) :
    Prop where
  unary : ∀ operator, roles.leads (dialect.operatorKeyword (.unary operator))
  binary : ∀ operator, roles.joins (dialect.operatorKeyword (.binary operator))

/-- A `SELECT` selects everything or at least one column. -/
def Select.Lists (select : Select) : Prop :=
  select.items = [] ∨ select.projection ≠ []

/-- If the part is a `SELECT` then it selects something, or else `FROM` can
stand in front of a block. -/
def PlacedPart.Fills (roles : Keyword.Roles) (placed : PlacedPart) : Prop :=
  ∀ select, placed.part = .select select →
    select.Lists ∨ roles.leads .fromSources

/-! ## Forms of scripts -/

namespace Script.Blocks

variable {roles : Keyword.Roles} {Block : Script → Prop}
variable (blocks : Blocks roles Block) {script front : Script}

include blocks

theorem parensIf (inner : Block script) (wrapped : Bool) :
    Block (script.parensIf wrapped) := by
  cases wrapped with
  | false => exact inner
  | true => exact blocks.parens inner

theorem commaSeparated {rest : List Script}
    (each : ∀ other ∈ script :: rest, Block other) :
    Block (Script.commaSeparated (script :: rest)) := by
  induction rest generalizing script with
  | nil => exact each script List.mem_cons_self
  | cons next others ih =>
      rw [List.forall_mem_cons] at each
      exact blocks.between each.1 (blocks.clausal.joins _ (by decide))
        (ih each.2)

/-! ## Clauses behind a block -/

theorem filtered (block : Block front) (constant : Option Bool)
    (inner : Block script) :
    Block (front ++ filterScript constant script) := by
  match constant with
  | some true => simpa [filterScript] using block
  | some false =>
      rw [filterScript, ← List.append_assoc]
      exact blocks.between block (blocks.clausal.joins _ (by decide))
        (blocks.keyword (blocks.clausal.alone _ (by decide)))
  | none =>
      rw [filterScript, ← List.append_assoc]
      exact blocks.between block (blocks.clausal.joins _ (by decide)) inner

theorem ordered (block : Block front) {terms : List Script}
    (each : ∀ term ∈ terms, Block term) :
    Block (front ++ orderingScript terms) := by
  cases terms with
  | nil => simpa [orderingScript] using block
  | cons term rest =>
      rw [orderingScript, List.isEmpty_cons, if_neg Bool.false_ne_true,
        ← List.append_assoc]
      exact blocks.between block (blocks.clausal.joins _ (by decide))
        (blocks.commaSeparated each)

theorem counted {word : Keyword} (block : Block front)
    (joins : roles.joins word) (count : Option Int64) :
    Block (front ++ match count with
      | some count => Script.keyword word ++ Script.parameter (.int count)
      | none => []) := by
  cases count with
  | none => simpa using block
  | some count =>
      rw [← List.append_assoc]
      exact blocks.between block joins (blocks.parameter _)

theorem limited (block : Block front) (context : Context)
    (limit offset : Option Int64) :
    Block (front ++ limitsScript context limit offset) := by
  unfold limitsScript
  rw [← List.append_assoc]
  exact blocks.counted
    (blocks.counted block (blocks.clausal.joins _ (by decide)) _)
    (blocks.clausal.joins _ (by decide)) _

theorem locked (block : Block front) (forUpdate : Bool) :
    Block (front ++ if forUpdate then Script.keyword .forUpdate else []) := by
  cases forUpdate with
  | false => simpa using block
  | true => exact blocks.trailing block blocks.clausal.trails

end Script.Blocks

/-! ## The parts of statements -/

theorem Context.tablePath_segments_ne_nil (context : Context) (table : Table) :
    (context.tablePath table).segments ≠ [] := by
  rw [Context.tablePath]
  split
  · simp
  · rw [Table.path]
    split <;> simp

theorem Context.fieldPath_segments_ne_nil {context : Context} {field : Field}
    {path : Path} (found : context.fieldPath field = .ok path) :
    path.segments ≠ [] := by
  cases bound : field.binding with
  | none =>
      rw [fieldPath, bound] at found
      cases found
      simp [Path.push]
  | some ref =>
      obtain ⟨name, _, rfl⟩ :=
        (context.fieldPath_eq_ok_iff_of_bound bound).mp found
      exact List.cons_ne_nil _ _

section

variable {roles : Keyword.Roles} {Block : Script → Prop}
variable (blocks : Script.Blocks roles Block)

include blocks

theorem Value.boundScript_block (value : Value) : Block value.boundScript := by
  cases value with
  | list items => exact blocks.fail [] _
  | _ => exact blocks.parameter _

theorem Value.script_block (value : Value) : Block value.script := by
  cases value with
  | null => exact blocks.keyword (blocks.clausal.alone _ (by decide))
  | list items =>
      rw [Value.script, Value.listScript]
      cases items with
      | nil => exact blocks.fail [] _
      | cons item rest =>
          rw [List.isEmpty_cons, if_neg Bool.false_ne_true]
          refine blocks.parens (blocks.commaSeparated ?_)
          rw [← List.map_cons, List.forall_mem_map]
          exact fun item _ => item.boundScript_block blocks
  | _ => exact blocks.parameter _

theorem Field.script_block (context : Context) (field : Field) :
    Block (field.script context) := by
  rw [Field.script]
  split
  · exact blocks.name (by simp)
  · split
    · next found => exact blocks.name (Context.fieldPath_segments_ne_nil found)
    · exact blocks.fail [] _

theorem Table.script_block (context : Context) (table : Table) :
    Block (table.script context) :=
  blocks.name (context.tablePath_segments_ne_nil table)

/-- What is selected is a block together with what it is selected from, even if
no column is selected and `FROM` can stand in front of it. -/
theorem Select.itemsScript_block (context : Context) (select : Select)
    (fills : select.Lists ∨ roles.leads .fromSources) {source : Script}
    (inner : Block source) :
    Block (select.itemsScript context ++ Script.keyword .fromSources ++
      source) := by
  have listed (columns : Script)
      (front : Block columns ∨ columns = [] ∧ roles.leads .fromSources) :
      Block (columns ++ Script.keyword .fromSources ++ source) := by
    rcases front with block | ⟨rfl, leads⟩
    · exact blocks.between block (blocks.clausal.joins _ (by decide)) inner
    · exact blocks.leading leads inner
  rw [Select.itemsScript]
  simp only [List.append_assoc]
  refine blocks.leading (blocks.clausal.leads _ (by decide)) ?_
  have rest := listed
    (if select.items.isEmpty then Script.keyword .allColumns
      else Script.commaSeparated (select.projection.map fun field =>
        field.script context)) ?_
  · rw [List.append_assoc] at rest
    cases select.distinct with
    | false => exact rest
    | true =>
        exact blocks.leading (blocks.clausal.leads _ (by decide)) rest
  · split
    · exact .inl (blocks.keyword (blocks.clausal.alone _ (by decide)))
    · next some =>
        cases columns : select.projection with
        | nil =>
            refine .inr ⟨rfl, fills.resolve_left ?_⟩
            rintro (everything | column)
            · exact some (List.isEmpty_iff.mpr everything)
            · exact column columns
        | cons field others =>
            refine .inl (blocks.commaSeparated ?_)
            rw [← List.map_cons, List.forall_mem_map]
            exact fun field _ => field.script_block blocks context

/-- A statement is a block if its clauses are one wherever it has a target. -/
theorem Select.inScope_block {context : Context} (select : Select)
    {body : Context → Script}
    (inner : ∀ names chain, select.chain? = some chain →
      Block (body (context.enter names))) :
    Block (select.inScope context body) := by
  rw [Select.inScope]
  split
  · exact blocks.fail [] _
  · split
    · exact blocks.fail [] _
    · next chain target =>
        split
        · exact blocks.fail [] _
        · refine blocks.notes _ ?_
          split
          · exact blocks.fail [] _
          · exact inner _ chain target

end

/-! ## Statements -/

section

set_option linter.unusedSectionVars false

variable {roles : Keyword.Roles} {Block : Script → Prop} {bare : Bool}
variable (blocks : Script.Blocks roles Block)

include blocks

mutual

theorem Expr.script_block (context : Context)
    (operates : context.dialect.Operates roles) {enclosing : List Select} :
    (expr : Expr) →
      (∀ placed ∈ expr.parts bare enclosing, placed.Fills roles) →
      Block (expr.script context)
  | .value constant, _ => constant.script_block blocks
  | .field field, _ => field.script_block blocks context
  | .query select, fills =>
      blocks.parens (Select.script_block context operates select fills)
  | .unary _ operand, fills =>
      blocks.leading (operates.unary _) (blocks.parensIf
        (Expr.script_block context operates operand fills) _)
  | .binary _ left right, fills => by
      rw [Expr.parts, List.forall_mem_append] at fills
      exact blocks.between
        (blocks.parensIf
          (Expr.script_block context operates left fills.1) _)
        (operates.binary _)
        (blocks.parensIf
          (Expr.script_block context operates right fills.2) _)

theorem Select.script_block (context : Context)
    (operates : context.dialect.Operates roles) {enclosing : List Select} :
    (select : Select) →
      (∀ placed ∈ select.parts bare enclosing, placed.Fills roles) →
      Block (select.script context)
  | ⟨items, chain, filter, ordering, limit, offset, distinct, forUpdate⟩,
      fills => by
      rw [Select.parts_eq, List.forall_mem_cons, List.forall_mem_append,
        List.forall_mem_append, List.forall_mem_append] at fills
      obtain ⟨itself, ⟨⟨_, within⟩, filtering⟩, terms⟩ := fills
      rw [Select.script]
      apply Select.inScope_block blocks
      intro names held target
      have clauses (source : Script) (inner : Block source) :=
        blocks.locked (blocks.limited (blocks.ordered (blocks.filtered
          (Select.itemsScript_block blocks (context.enter names) _
            (itself _ rfl) inner) filter.asBool?
          (Expr.script_block (context.enter names) operates filter filtering))
          (OrderTerm.scripts_block (context.enter names) operates ordering
            terms)) (context.enter names) limit offset) forUpdate
      cases chain with
      | some chain =>
          exact clauses _
            (Chain.script_block (context.enter names) operates chain within)
      | none =>
          obtain ⟨source, found, _⟩ := Option.map_eq_some_iff.mp target
          exact clauses _ (SelectItem.firstSourceScript_block
            (context.enter names) operates items found within)

theorem SelectItem.firstSourceScript_block (context : Context)
    (operates : context.dialect.Operates roles) {enclosing : List Select}
    {source : Source} :
    (items : List SelectItem) →
      items.findSome? SelectItem.source? = some source →
      (∀ placed ∈ SelectItem.firstParts bare enclosing items,
        placed.Fills roles) →
      Block (SelectItem.firstSourceScript context items)
  | [], found, _ => by cases found
  | .source source :: _, _, fills =>
      Source.script_block context operates source fills
  | .field field :: rest, found, fills => by
      rw [SelectItem.firstSourceScript]
      rw [List.findSome?_cons, SelectItem.source?] at found
      rw [SelectItem.firstParts] at fills
      cases unbound : field.binding.isNone with
      | true => exact field.table.script_block blocks context
      | false =>
          rw [unbound] at found fills
          exact SelectItem.firstSourceScript_block context operates rest
            found fills

theorem OrderTerm.scripts_block (context : Context)
    (operates : context.dialect.Operates roles) {enclosing : List Select} :
    (terms : List OrderTerm) →
      (∀ placed ∈ OrderTerm.allParts bare enclosing terms,
        placed.Fills roles) →
      ∀ script ∈ OrderTerm.scripts context terms, Block script
  | [], _ => by simp [OrderTerm.scripts]
  | ⟨expr, direction, nulls⟩ :: rest, fills => by
      rw [OrderTerm.allParts, List.forall_mem_append, List.forall_mem_cons]
        at fills
      rw [OrderTerm.scripts, List.forall_mem_cons]
      refine ⟨?_, OrderTerm.scripts_block context operates rest fills.2⟩
      have directed : Block (expr.script context ++
          Script.keyword direction.keyword) :=
        blocks.trailing
          (Expr.script_block context operates expr fills.1.2)
          (blocks.clausal.direction direction)
      cases nulls with
      | none =>
          rw [OrderTerm.script]
          exact directed
      | some nulls =>
          rw [OrderTerm.script]
          split
          · exact blocks.trailing directed (blocks.clausal.nulls nulls)
          · exact blocks.fail [] _

theorem Chain.script_block (context : Context)
    (operates : context.dialect.Operates roles) {enclosing : List Select} :
    (chain : Chain) →
      (∀ placed ∈ chain.parts bare enclosing, placed.Fills roles) →
      Block (chain.script context)
  | .source source, fills =>
      Source.script_block context operates source fills
  | .join join, fills => Join.script_block context operates join fills

theorem Join.script_block (context : Context)
    (operates : context.dialect.Operates roles) {enclosing : List Select} :
    (join : Join) →
      (∀ placed ∈ join.parts bare enclosing, placed.Fills roles) →
      Block (join.script context)
  | ⟨left, kind, right, predicate⟩, fills => by
      unfold Join.parts at fills
      rw [List.forall_mem_append, List.forall_mem_append, List.forall_mem_cons]
        at fills
      obtain ⟨⟨⟨_, first⟩, second⟩, last⟩ := fills
      have sides : Block (left.script context ++ Script.keyword kind.keyword ++
          right.script context) :=
        blocks.between (Chain.script_block context operates left first)
          (blocks.clausal.kind kind)
          (Source.script_block context operates right second)
      cases predicate with
      | some predicate =>
          rw [Join.script, ← List.append_assoc]
          exact blocks.between sides (blocks.clausal.joins _ (by decide))
            (Expr.script_block context operates predicate last)
      | none =>
          rw [Join.script]
          cases kind.needsPredicate with
          | true => exact blocks.fail _ _
          | false => simpa using sides

theorem Source.script_block (context : Context)
    (operates : context.dialect.Operates roles) {enclosing : List Select} :
    (source : Source) →
      (∀ placed ∈ source.parts bare enclosing, placed.Fills roles) →
      Block (source.script context)
  | .table table, _ => table.script_block blocks context
  | .aliased renamed, fills =>
      Alias.script_block context operates renamed fills

theorem Alias.script_block (context : Context)
    (operates : context.dialect.Operates roles) {enclosing : List Select} :
    (renamed : Alias) →
      (∀ placed ∈ renamed.parts bare enclosing, placed.Fills roles) →
      Block (renamed.script context)
  | ⟨ref, target⟩, fills => by
      rw [Alias.script]
      split
      · exact blocks.between
          (AliasTarget.script_block context operates target fills)
          (blocks.clausal.joins _ (by decide)) (blocks.name (by simp))
      · exact blocks.fail [] _

theorem AliasTarget.script_block (context : Context)
    (operates : context.dialect.Operates roles) {enclosing : List Select} :
    (target : AliasTarget) →
      (∀ placed ∈ target.parts bare enclosing, placed.Fills roles) →
      Block (target.script context)
  | .table table, _ => table.script_block blocks context
  | .join join, fills =>
      blocks.parens (Join.script_block context operates join fills)
  | .query select, fills =>
      blocks.parens (Select.script_block context operates select fills)

end

mutual

theorem Operand.script_block (context : Context)
    (operates : context.dialect.Operates roles) :
    (operand : Operand) →
      (∀ placed ∈ operand.parts, placed.Fills roles) →
      Block (operand.script context)
  | .select select, fills =>
      blocks.parensIf (select.script_block blocks context operates fills) _
  | .compound compound, fills =>
      blocks.parensIf
        (Compound.script_block context operates compound fills) _

theorem Compound.script_block (context : Context)
    (operates : context.dialect.Operates roles) :
    (compound : Compound) →
      (∀ placed ∈ compound.parts, placed.Fills roles) →
      Block (compound.script context)
  | ⟨left, operator, right, ordering, limit, offset⟩, fills => by
      rw [Compound.parts, List.forall_mem_append, List.forall_mem_append]
        at fills
      obtain ⟨⟨first, second⟩, terms⟩ := fills
      have sides : Block (left.script context ++
          Script.keyword operator.keyword ++ right.script context) :=
        blocks.between (Operand.script_block context operates left first)
          (blocks.clausal.operator operator)
          (Operand.script_block context operates right second)
      rw [Compound.script]
      exact blocks.limited (blocks.ordered sides
        (OrderTerm.scripts_block blocks context.withBareColumns operates
          ordering terms)) context limit offset

end

/-- The script of a statement, as it is compiled, is a block. -/
theorem Operand.node_script_block (context : Context)
    (operates : context.dialect.Operates roles) (operand : Operand)
    (fills : ∀ placed ∈ operand.parts, placed.Fills roles) :
    Block (operand.node.script context) := by
  cases operand with
  | select select => exact select.script_block blocks context operates fills
  | compound compound =>
      exact compound.script_block blocks context operates fills

end

end SqlWeave
