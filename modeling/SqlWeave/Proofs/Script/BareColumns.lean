import SqlWeave.Proofs.Alias.Capture
import SqlWeave.Proofs.Alias.Qualifiers
import SqlWeave.Proofs.Script.Placement

/-!
# Columns by their name alone

The ordering of a compound statement names columns of the combined result, so
its columns are written without a qualifier.  A sub-query in one of its terms
selects from sources of its own, but its columns lose their qualifiers too,
whatever clause of it they stand in.  Nothing else is changed, so a sub-query is
written in such an ordering as it is in a filter if and only if no column is
referred to anywhere in it (`Compound.ordered_eq_filtered_iff`).
-/

namespace SqlWeave

/-- The context in which columns are written with their qualifiers. -/
def Context.withQualifiedColumns (context : Context) : Context :=
  { context with bareColumns := false }

/-- A column is qualified by what stands in front of its name. -/
theorem Context.exists_qualifier {context : Context} {field : Field}
    {path : Path} (found : context.fieldPath field = .ok path) :
    ∃ qualifier, qualifier ≠ [] ∧ path.segments = qualifier ++ [field.name] := by
  cases bound : field.binding with
  | none =>
      rw [fieldPath, bound] at found
      cases found
      refine ⟨(context.tablePath field.table).segments, ?_, rfl⟩
      rw [tablePath_eq]
      exact List.concat_ne_nil _ _
  | some ref =>
      obtain ⟨name, _, rfl⟩ :=
        (context.fieldPath_eq_ok_iff_of_bound bound).mp found
      exact ⟨[name], List.cons_ne_nil _ _, rfl⟩

/-- A qualified column is written as a path of several segments, unless its
alias has no name. -/
theorem Field.script_cases_of_qualified {context : Context}
    (qualified : context.bareColumns = false) (field : Field) :
    (∃ path, field.script context = Script.name path ∧
      path ≠ ⟨[field.name]⟩) ∨
    ∃ error, field.script context = Script.fail error := by
  rw [script, qualified, if_neg Bool.false_ne_true]
  cases found : context.fieldPath field with
  | ok path =>
      refine .inl ⟨path, rfl, ?_⟩
      rintro rfl
      obtain ⟨qualifier, nonempty, segments⟩ := Context.exists_qualifier found
      exact nonempty (List.self_eq_append_left.mp segments)
  | error error => exact .inr ⟨error, rfl⟩

namespace Script

variable {outer : Context} {columns others : List ColumnUse}
variable {first second third fourth : Script}

/-- The first script is the second one, except that each of the columns is
written by its name alone. -/
inductive Bares (outer : Context) : Script → Script → List ColumnUse → Prop where
  | same (script : Script) : Bares outer script script []
  | column (column : ColumnUse) :
      Bares outer (Script.name ⟨[column.field.name]⟩)
        (column.field.script (outer.within column.enclosing)) [column]
  | append {first second third fourth : Script}
      {columns others : List ColumnUse} :
      Bares outer first second columns → Bares outer third fourth others →
      Bares outer (first ++ third) (second ++ fourth) (columns ++ others)

namespace Bares

theorem eq_of_nil (bares : Bares outer first second columns)
    (none : columns = []) : first = second := by
  induction bares with
  | same script => rfl
  | column column => cases none
  | append front back frontIH backIH =>
      obtain ⟨left, right⟩ := List.append_eq_nil_iff.mp none
      rw [frontIH left, backIH right]

/-- With qualifiers as much is written as without, or less if an alias has no
name. -/
theorem length_cases (bares : Bares outer first second columns)
    (qualified : outer.bareColumns = false) (completes : Completes first) :
    (Completes second ∧ second.fragments.length = first.fragments.length) ∨
      (¬ Completes second ∧
        second.fragments.length < first.fragments.length) := by
  induction bares with
  | same script => exact .inl ⟨completes, rfl⟩
  | column column =>
      have within := outer.bareColumns_within column.enclosing
      rw [qualified] at within
      rcases column.field.script_cases_of_qualified within with
        ⟨path, written, _⟩ | ⟨error, failing⟩
      · rw [written]
        exact .inl ⟨completes_name path, rfl⟩
      · rw [failing]
        exact .inr ⟨not_completes_fail error, Nat.one_pos⟩
  | append front back frontIH backIH =>
      obtain ⟨left, right⟩ := (completes_append _ _).mp completes
      rw [left.fragments_append, List.length_append, completes_append]
      rcases frontIH left with ⟨goes, equal⟩ | ⟨stops, less⟩
      · rw [goes.fragments_append, List.length_append, equal, and_iff_right goes,
          Nat.add_left_cancel_iff, Nat.add_lt_add_iff_left]
        exact backIH right
      · rw [fragments_append_of_not_completes stops]
        exact .inr ⟨fun both => stops both.1, Nat.lt_add_right _ less⟩

/-- The same is written only if no column is. -/
theorem fragments_eq_iff (bares : Bares outer first second columns)
    (qualified : outer.bareColumns = false) (completes : Completes first) :
    first.fragments = second.fragments ↔ columns = [] := by
  refine ⟨?_, fun none => by rw [bares.eq_of_nil none]⟩
  induction bares with
  | same script => exact fun _ => rfl
  | column column =>
      intro equal
      have within := outer.bareColumns_within column.enclosing
      rw [qualified] at within
      rcases column.field.script_cases_of_qualified within with
        ⟨path, written, longer⟩ | ⟨error, failing⟩
      · rw [written, fragments_name, fragments_name] at equal
        cases equal
        exact absurd rfl longer
      · rw [failing] at equal
        cases equal
  | append front back frontIH backIH =>
      intro equal
      obtain ⟨left, right⟩ := (completes_append _ _).mp completes
      rw [left.fragments_append] at equal
      rcases front.length_cases qualified left with ⟨goes, same⟩ | ⟨stops, less⟩
      · -- Both fronts are equally long, so the texts can be cut behind them.
        rw [goes.fragments_append] at equal
        obtain ⟨fronts, backs⟩ := List.append_inj equal same.symm
        rw [frontIH left fronts, backIH right backs]
        rfl
      · -- Nothing is written after a front that stops, which is too little.
        rw [fragments_append_of_not_completes stops] at equal
        have longer := congrArg List.length equal
        rw [List.length_append] at longer
        omega

end Bares

/-- If the first script completes, it is the second one with the columns written
by their names alone. -/
def Drops (outer : Context) (first second : Script)
    (columns : List ColumnUse) : Prop :=
  first.Completes → Bares outer first second columns

namespace Drops

theorem same (script : Script) : Drops outer script script [] :=
  fun _ => .same script

theorem fail (error : QueryError) (script : Script)
    (columns : List ColumnUse) :
    Drops outer (Script.fail error) script columns :=
  fun completes => absurd completes (not_completes_fail error)

theorem append (front : Drops outer first second columns)
    (back : Drops outer third fourth others) :
    Drops outer (first ++ third) (second ++ fourth) (columns ++ others) := by
  intro completes
  obtain ⟨left, right⟩ := (completes_append _ _).mp completes
  exact .append (front left) (back right)

theorem append_same (front : Drops outer first second columns)
    (script : Script) :
    Drops outer (first ++ script) (second ++ script) columns := by
  have whole := front.append (same script)
  rw [List.append_nil] at whole
  exact whole

theorem same_append (script : Script)
    (back : Drops outer first second columns) :
    Drops outer (script ++ first) (script ++ second) columns :=
  (same script).append back

theorem parens (inner : Drops outer first second columns) :
    Drops outer first.parens second.parens columns :=
  (same_append _ inner).append_same _

theorem parensIf (inner : Drops outer first second columns) (wrapped : Bool) :
    Drops outer (first.parensIf wrapped) (second.parensIf wrapped) columns := by
  cases wrapped with
  | false => exact inner
  | true => exact inner.parens

end Drops

/-- The scripts drop the qualifiers of the columns, each one of its share. -/
inductive AllDrop (outer : Context) :
    List Script → List Script → List ColumnUse → Prop where
  | nil : AllDrop outer [] [] []
  | cons {first second : Script} {rest rest' : List Script}
      {columns others : List ColumnUse} :
      Drops outer first second columns → AllDrop outer rest rest' others →
      AllDrop outer (first :: rest) (second :: rest') (columns ++ others)

namespace AllDrop

variable {scripts scripts' : List Script}

theorem commaSeparated (each : AllDrop outer scripts scripts' columns) :
    Drops outer (Script.commaSeparated scripts)
      (Script.commaSeparated scripts') columns := by
  induction each with
  | nil => exact .same _
  | cons head tail ih =>
      cases tail with
      | nil =>
          rw [List.append_nil]
          exact head
      | cons next others => exact (head.append_same _).append ih

theorem ordering (each : AllDrop outer scripts scripts' columns) :
    Drops outer (orderingScript scripts) (orderingScript scripts') columns := by
  cases each with
  | nil => exact .same _
  | cons head tail =>
      exact Drops.same_append _ (AllDrop.cons head tail).commaSeparated

end AllDrop

end Script

open Script (Drops AllDrop)

/-! ## Statements -/

variable {outer : Context}

theorem Field.drops (outer : Context) (enclosing : List Select)
    (field : Field) :
    Drops outer (field.script (outer.within enclosing).withBareColumns)
      (field.script (outer.within enclosing)) [⟨field, enclosing⟩] :=
  fun _ => .column ⟨field, enclosing⟩

theorem Field.allDrop (outer : Context) (enclosing : List Select)
    (fields : List Field) :
    AllDrop outer
      (fields.map fun field =>
        field.script (outer.within enclosing).withBareColumns)
      (fields.map fun field => field.script (outer.within enclosing))
      (fields.map fun field => ⟨field, enclosing⟩) := by
  induction fields with
  | nil => exact .nil
  | cons field rest ih => exact .cons (field.drops outer enclosing) ih

theorem Select.itemsScript_drops (outer : Context) (enclosing : List Select)
    (select : Select) :
    Drops outer
      (select.itemsScript (outer.within enclosing).withBareColumns)
      (select.itemsScript (outer.within enclosing))
      (select.projection.map fun field => ⟨field, enclosing⟩) := by
  rw [itemsScript, itemsScript]
  apply Drops.same_append
  split
  · next empty =>
      rw [projection_eq_nil_of_isEmpty empty]
      exact .same _
  · exact (Field.allDrop outer enclosing _).commaSeparated

/-- A filter that is not compiled refers to no columns. -/
theorem filterScript_drops {enclosing : List Select} (filter : Expr)
    {first second : Script}
    (inner : Drops outer first second (filter.columnUses enclosing)) :
    Drops outer (filterScript filter.asBool? first)
      (filterScript filter.asBool? second) (filter.columnUses enclosing) := by
  cases constant : filter.asBool? with
  | none => exact inner.same_append _
  | some held =>
      rw [Expr.eq_ofBool_of_asBool? constant]
      cases held with
      | false => exact .same _
      | true => exact .same _

/-- A statement drops the qualifiers that its clauses drop.  Its checks and its
aliases do not depend on how columns are written. -/
theorem Select.script_drops_of_clauses {enclosing : List Select}
    (select : Select) {columns : List ColumnUse}
    (clauses : Drops outer
      (select.clausesScript
        (outer.within (select :: enclosing)).withBareColumns)
      (select.clausesScript (outer.within (select :: enclosing))) columns) :
    Drops outer (select.script (outer.within enclosing).withBareColumns)
      (select.script (outer.within enclosing)) columns := by
  intro completes
  obtain ⟨chain, admitted⟩ := admitted_of_completes completes
  have qualified : select.script (outer.within enclosing) = _ :=
    script_eq_of_registered admitted.lock admitted.target admitted.items
      admitted.registered
  rw [admitted.script_eq, qualified]
  exact .append (.same _) (clauses admitted.clauses)

/-- The clauses of a statement drop the qualifiers that its parts drop. -/
theorem Select.clausesScript_drops (outer : Context) (enclosing : List Select)
    (select : Select) {sources ordered : List ColumnUse}
    (source : Drops outer
      (select.sourceScript (outer.within enclosing).withBareColumns)
      (select.sourceScript (outer.within enclosing)) sources)
    (filter : Drops outer
      (select.filter.script (outer.within enclosing).withBareColumns)
      (select.filter.script (outer.within enclosing))
      (select.filter.columnUses enclosing))
    (ordering : AllDrop outer
      (OrderTerm.scripts (outer.within enclosing).withBareColumns
        select.ordering)
      (OrderTerm.scripts (outer.within enclosing) select.ordering) ordered) :
    Drops outer
      (select.clausesScript (outer.within enclosing).withBareColumns)
      (select.clausesScript (outer.within enclosing))
      (select.projection.map (fun field => ⟨field, enclosing⟩) ++ sources ++
        select.filter.columnUses enclosing ++ ordered) := by
  have selected := (select.itemsScript_drops outer enclosing).append_same
    (Script.keyword .fromSources)
  have clauses := ((selected.append source).append
    (filterScript_drops select.filter filter)).append ordering.ordering
  exact (clauses.append_same (limitsScript (outer.within enclosing) select.limit
    select.offset)).append_same _

mutual

theorem Expr.drops (outer : Context) (enclosing : List Select) :
    (expr : Expr) →
      Drops outer (expr.script (outer.within enclosing).withBareColumns)
        (expr.script (outer.within enclosing)) (expr.columnUses enclosing)
  | .value _ => .same _
  | .field field => field.drops outer enclosing
  | .query select => (Select.drops outer enclosing select).parens
  | .unary _ operand =>
      ((Expr.drops outer enclosing operand).parensIf _).same_append _
  | .binary _ left right =>
      (((Expr.drops outer enclosing left).parensIf _).append_same _).append
        ((Expr.drops outer enclosing right).parensIf _)

theorem Select.drops (outer : Context) (enclosing : List Select) :
    (select : Select) →
      Drops outer (select.script (outer.within enclosing).withBareColumns)
        (select.script (outer.within enclosing)) (select.columnUses enclosing)
  | ⟨items, chain, filter, ordering, limit, offset, distinct, forUpdate⟩ => by
      apply Select.script_drops_of_clauses
      cases chain with
      | some chain =>
          exact Select.clausesScript_drops outer _ _
            (Chain.drops outer _ chain) (Expr.drops outer _ filter)
              (OrderTerm.allDrop outer _ ordering)
      | none =>
          exact Select.clausesScript_drops outer _ _
            (SelectItem.drops outer _ items) (Expr.drops outer _ filter)
              (OrderTerm.allDrop outer _ ordering)

theorem SelectItem.drops (outer : Context) (enclosing : List Select) :
    (items : List SelectItem) →
      Drops outer
        (SelectItem.firstSourceScript
          (outer.within enclosing).withBareColumns items)
        (SelectItem.firstSourceScript (outer.within enclosing) items)
        (SelectItem.firstColumnUses enclosing items)
  | [] => .same _
  | .source source :: _ => Source.drops outer enclosing source
  | .field field :: rest => by
      rw [SelectItem.firstSourceScript, SelectItem.firstSourceScript,
        SelectItem.firstColumnUses]
      split
      · exact .same _
      · exact SelectItem.drops outer enclosing rest

theorem OrderTerm.allDrop (outer : Context) (enclosing : List Select) :
    (terms : List OrderTerm) →
      AllDrop outer
        (OrderTerm.scripts (outer.within enclosing).withBareColumns terms)
        (OrderTerm.scripts (outer.within enclosing) terms)
        (OrderTerm.allColumnUses enclosing terms)
  | [] => .nil
  | ⟨expr, direction, none⟩ :: rest => by
      have directed := (Expr.drops outer enclosing expr).append_same
        (Script.keyword direction.keyword)
      exact .cons directed (OrderTerm.allDrop outer enclosing rest)
  | ⟨expr, direction, some nulls⟩ :: rest => by
      have directed := (Expr.drops outer enclosing expr).append_same
        (Script.keyword direction.keyword)
      refine .cons ?_ (OrderTerm.allDrop outer enclosing rest)
      rw [OrderTerm.script, OrderTerm.script]
      show Drops outer (if (outer.within enclosing).dialect.nullsOrdering then
        _ else _) (if (outer.within enclosing).dialect.nullsOrdering then
        _ else _) _
      split
      · exact directed.append_same _
      · exact .fail _ _ _

theorem Chain.drops (outer : Context) (enclosing : List Select) :
    (chain : Chain) →
      Drops outer (chain.script (outer.within enclosing).withBareColumns)
        (chain.script (outer.within enclosing)) (chain.columnUses enclosing)
  | .source source => Source.drops outer enclosing source
  | .join join => Join.drops outer enclosing join

theorem Join.drops (outer : Context) (enclosing : List Select) :
    (join : Join) →
      Drops outer (join.script (outer.within enclosing).withBareColumns)
        (join.script (outer.within enclosing)) (join.columnUses enclosing)
  | ⟨left, kind, right, predicate⟩ => by
      have sides := ((Chain.drops outer enclosing left).append_same
        (Script.keyword kind.keyword)).append
          (Source.drops outer enclosing right)
      cases predicate with
      | some predicate =>
          exact sides.append
            ((Expr.drops outer enclosing predicate).same_append _)
      | none => exact sides.append (.same _)

theorem Source.drops (outer : Context) (enclosing : List Select) :
    (source : Source) →
      Drops outer (source.script (outer.within enclosing).withBareColumns)
        (source.script (outer.within enclosing)) (source.columnUses enclosing)
  | .table _ => .same _
  | .aliased renamed => Alias.drops outer enclosing renamed

theorem Alias.drops (outer : Context) (enclosing : List Select) :
    (renamed : Alias) →
      Drops outer (renamed.script (outer.within enclosing).withBareColumns)
        (renamed.script (outer.within enclosing))
        (renamed.columnUses enclosing)
  | ⟨ref, target⟩ => by
      have named : (outer.within enclosing).withBareColumns.nameOfRef ref =
          (outer.within enclosing).nameOfRef ref := rfl
      rw [Alias.script, Alias.script, named]
      split
      · exact ((AliasTarget.drops outer enclosing target).append_same
          _).append_same _
      · exact .fail _ _ _

theorem AliasTarget.drops (outer : Context) (enclosing : List Select) :
    (target : AliasTarget) →
      Drops outer (target.script (outer.within enclosing).withBareColumns)
        (target.script (outer.within enclosing)) (target.columnUses enclosing)
  | .table _ => .same _
  | .join join => (Join.drops outer enclosing join).parens
  | .query select => (Select.drops outer enclosing select).parens

end

/-- A sub-query in the ordering of a compound statement is written as in a
filter, except that all columns in it stand by their names alone.  So what is
written is the same only if it refers to no columns. -/
theorem Compound.ordered_eq_filtered_iff (outer : Context) (compound : Compound)
    (completes : (compound.script outer).Completes) {select : Select}
    {enclosing : List Select}
    (member : ⟨.select select, enclosing, true⟩ ∈
      OrderTerm.allParts true [] compound.ordering) :
    let ordered := select.script (outer.withBareColumns.within enclosing)
    let filtered :=
      select.script (outer.withQualifiedColumns.within enclosing)
    ordered.fragments <:+: Script.fragments (compound.script outer) ∧
      Script.Bares outer.withQualifiedColumns ordered filtered
        (select.columnUses enclosing) ∧
      (ordered.fragments = filtered.fragments ↔
        select.columnUses enclosing = []) := by
  intro ordered filtered
  have inside : ⟨.select select, enclosing, true⟩ ∈ compound.parts := by
    cases compound
    exact List.mem_append_right _ member
  have stands := compound.holds outer completes select enclosing true inside
  have bares : Script.Bares outer.withQualifiedColumns ordered filtered
      (select.columnUses enclosing) := by
    have drops := Select.drops outer.withQualifiedColumns enclosing select
    rw [← Context.within_withBareColumns] at drops
    exact drops stands.completes
  exact ⟨stands.written, bares, bares.fragments_eq_iff rfl stands.completes⟩

/-- The keys of a second copy of the people that equal the key of the first. -/
def Select.twin : Select := .matching ⟨⟨1⟩, some "x"⟩ ⟨⟨2⟩, some "y"⟩

/-- The people whose key is that of their twin. -/
def Select.twinned : Select := .correlated ⟨⟨1⟩, some "x"⟩ ⟨⟨2⟩, some "y"⟩

/-- A union in the order of what a sub-query finds. -/
def Compound.byTwins : Compound :=
  ⟨.select .everyone, .union, .select .everyone,
    [(Expr.query .twinned).ordered .ascending], none, none⟩

/-- The database that both are written for. -/
def Context.plain : Context := .outermost .generic none

theorem Compound.byTwins_completes : (byTwins.script .plain).Completes := rfl

theorem Compound.twin_mem_byTwins :
    ⟨.select .twin, [.twinned], true⟩ ∈
      OrderTerm.allParts true [] byTwins.ordering := by
  apply List.mem_cons_of_mem
  apply List.mem_append_left
  show _ ∈ Select.parts true [] .twinned
  rw [Select.parts_eq]
  apply List.mem_cons_of_mem
  apply List.mem_append_left
  apply List.mem_append_right
  show _ ∈ _ ++ Select.parts true _ .twin
  rw [Select.parts_eq]
  exact List.mem_append_right _ List.mem_cons_self

/-- The inner one of two nested sub-queries loses the qualifiers with which it
tells the two copies of its table apart. -/
theorem Compound.ordered_eq_filtered_iff_twin :
    let ordered := Script.fragments
      (Select.twin.script (Context.plain.withBareColumns.within [.twinned]))
    ordered <:+: Script.fragments (byTwins.script .plain) ∧
      ordered ≠ Script.fragments (Select.twin.script
        (Context.plain.withQualifiedColumns.within [.twinned])) := by
  obtain ⟨written, _, same⟩ :=
    ordered_eq_filtered_iff .plain byTwins byTwins_completes twin_mem_byTwins
  exact ⟨written, fun equal => List.cons_ne_nil _ _ (same.mp equal)⟩

/-- A filter and the ordering of a union do not give a sub-query the same
meaning: with bare columns it compares the inner copy with itself. -/
theorem Compound.not_forall_ordered_eq_filtered :
    ¬ ∀ (outer : Context) (compound : Compound) (select : Select)
        (enclosing : List Select),
      (compound.script outer).Completes →
      ⟨.select select, enclosing, true⟩ ∈
        OrderTerm.allParts true [] compound.ordering →
      Script.fragments
          (select.script (outer.withBareColumns.within enclosing)) =
        Script.fragments
          (select.script (outer.withQualifiedColumns.within enclosing)) := by
  intro never
  have equal :=
    never .plain byTwins .twin [.twinned] byTwins_completes twin_mem_byTwins
  have selected : Fragment.name ⟨["id"]⟩ = .name ⟨["y", "id"]⟩ :=
    Option.some.inj (congrArg (fun written => written[1]?) equal)
  exact absurd (Fragment.name.inj selected) (by decide)

end SqlWeave
