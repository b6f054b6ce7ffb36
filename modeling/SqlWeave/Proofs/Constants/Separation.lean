import SqlWeave.Dialect.Presets
import SqlWeave.Proofs.Constants.Alike
import SqlWeave.Proofs.Constants.Unchanged
import SqlWeave.Proofs.Script.Compiled

/-!
# Constants stay out of the text

Two nodes that differ in their constants compile to the same template with the
same events, or fail with the same error.  Only the bound values differ, and
they differ only where constants were replaced: the values are those of the
slots of the variation, in order (`Database.compile_of_varies`).
-/

namespace SqlWeave

open Script (Alike AllAlike)

variable {limitMax : Option Int64} {slots : List Slot}

/-! ## Parts with parameters -/

theorem Value.script_of_isScalar {constant : Value}
    (scalar : constant.isScalar) :
    constant.script = Script.parameter constant := by
  cases constant with
  | null => cases scalar
  | list items => cases scalar
  | _ => rfl

theorem Value.boundScript_of_not_isList {value : Value}
    (single : value.isList = false) :
    value.boundScript = Script.parameter value := by
  cases value with
  | list items => cases single
  | _ => rfl

theorem Value.boundScript_self_alike (value : Value) :
    Alike limitMax [.constant value value] value.boundScript
      value.boundScript := by
  cases value with
  | list items => exact .fail _ _
  | _ => exact .parameter _ _

theorem Value.boundScripts_alike (items : List (Value × Value))
    (each : ∀ item ∈ items, item.1 = item.2 ∨
      item.1.isList = false ∧ item.2.isList = false) :
    AllAlike limitMax (items.map fun item => .constant item.1 item.2)
      ((items.map Prod.fst).map boundScript)
      ((items.map Prod.snd).map boundScript) := by
  induction items with
  | nil => exact .nil
  | cons item rest ih =>
      have head : Alike limitMax [.constant item.1 item.2] item.1.boundScript
          item.2.boundScript := by
        rcases each item List.mem_cons_self with equal | ⟨single, single'⟩
        · rw [equal]
          exact boundScript_self_alike item.2
        · rw [boundScript_of_not_isList single,
            boundScript_of_not_isList single']
          exact .parameter item.1 item.2
      have tail := ih fun other member =>
        each other (List.mem_cons_of_mem _ member)
      exact .cons head tail

theorem Value.Varies.script_alike {first second : Value}
    (varies : first.Varies second slots) :
    Alike limitMax slots first.script second.script := by
  cases varies with
  | null => exact .keyword .null
  | scalar firstScalar secondScalar =>
      rw [script_of_isScalar firstScalar, script_of_isScalar secondScalar]
      exact .parameter first second
  | list items each =>
      rw [script, script, listScript, listScript, List.isEmpty_map,
        List.isEmpty_map]
      split
      · exact .fail _ _
      · exact (boundScripts_alike items each).commaSeparated.parens

theorem limitsScript_alike (context : Context)
    {limit limit' offset offset' : Option Int64}
    (limited : limit.isSome = limit'.isSome)
    (skipped : offset.isSome = offset'.isSome) :
    Alike context.dialect.limitMax (Slot.ofLimits limit limit' offset offset')
      (limitsScript context limit offset)
      (limitsScript context limit' offset') := by
  have counted (word : Keyword) (count count' : Int64) :
      Alike context.dialect.limitMax [.constant (.int count) (.int count')]
        (Script.keyword word ++ Script.parameter (.int count))
        (Script.keyword word ++ Script.parameter (.int count')) :=
    (Alike.parameter _ _).keyword_append word
  unfold limitsScript Slot.ofLimits
  apply Alike.append
  · match limit, limit', offset, offset' with
    | some count, some count', _, _ => exact counted .limit count count'
    | none, none, none, none => exact .nil
    | none, none, some _, some _ =>
        generalize context.dialect.limitMax = limitMax
        cases limitMax <;> exact ⟨rfl, rfl, rfl, fun _ => rfl, fun _ => rfl⟩
  · match offset, offset' with
    | some count, some count' => exact counted .offset count count'
    | none, none => exact .nil

theorem orderingScript_alike {terms terms' : List Script}
    (each : AllAlike limitMax slots terms terms') :
    Alike limitMax slots (orderingScript terms) (orderingScript terms') := by
  rw [orderingScript, orderingScript, each.isEmpty_eq]
  split
  · cases each with
    | nil => exact .nil
    | cons => contradiction
  · exact each.commaSeparated.keyword_append .orderBy

theorem filterScript_alike {filter filter' : Expr}
    (constant : filter.asBool? = filter'.asBool?) {script script' : Script}
    (inner : Alike limitMax slots script script') :
    Alike limitMax (Slot.ofFilter filter slots)
      (filterScript filter.asBool? script)
      (filterScript filter'.asBool? script') := by
  rw [← constant, Slot.ofFilter]
  match filter.asBool? with
  | some true => exact .nil
  | some false =>
      exact (Alike.keyword .alwaysFalse).keyword_append .whereFilter
  | none => exact inner.keyword_append .whereFilter

theorem Field.script_alike (context : Context) (field : Field) :
    Alike limitMax [] (field.script context) (field.script context) := by
  rw [Field.script]
  split
  · exact .name _
  · split
    · exact .name _
    · exact .fail [] _

theorem Expr.Varies.root?_eq {first second : Expr}
    (varies : first.Varies second slots) : first.root? = second.root? := by
  cases varies <;> rfl

theorem Expr.Varies.wrapped_eq {first second : Expr}
    (varies : first.Varies second slots) (parent : Operator) (onRight : Bool) :
    first.wrapped parent onRight = second.wrapped parent onRight := by
  rw [Expr.wrapped, Expr.wrapped, varies.root?_eq]

theorem Field.scripts_alike (context : Context) (fields : List Field) :
    AllAlike limitMax [] (fields.map fun field => field.script context)
      (fields.map fun field => field.script context) := by
  induction fields with
  | nil => exact .nil
  | cons field rest ih => exact .cons (field.script_alike context) ih

theorem Select.itemsScript_alike (select : Select) (context : Context) :
    Alike context.dialect.limitMax [] (select.itemsScript context)
      (select.itemsScript context) := by
  have lead : Alike context.dialect.limitMax []
      (Script.keyword .select ++
        if select.distinct then Script.keyword .distinct else [])
      (Script.keyword .select ++
        if select.distinct then Script.keyword .distinct else []) := by
    apply Alike.keyword_append
    split
    · exact .keyword .distinct
    · exact .nil
  rw [itemsScript]
  apply lead.append
  split
  · exact .keyword .allColumns
  · exact (Field.scripts_alike context select.projection).commaSeparated

theorem Select.Varies.itemsScript_alike {first second : Select}
    (varies : first.Varies second slots) (context : Context) :
    Alike context.dialect.limitMax [] (first.itemsScript context)
      (second.itemsScript context) := by
  have equal : first.itemsScript context = second.itemsScript context := by
    have fields := varies.projection_eq
    cases varies with
    | mk _ _ items =>
        have empty := items.isEmpty_eq
        rw [Select.itemsScript, Select.itemsScript, fields]
        simp only [empty]
  rw [equal]
  exact second.itemsScript_alike context

theorem lockScript_alike (locked : Bool) :
    Alike limitMax [] (if locked then Script.keyword .forUpdate else [])
      (if locked then Script.keyword .forUpdate else []) := by
  cases locked with
  | false => exact .nil
  | true => exact .keyword .forUpdate

/-- The checks of a statement and its registration of aliases take no notice of
constants. -/
theorem Select.Varies.inScope_alike {first second : Select}
    {clauseSlots : List Slot} (varies : first.Varies second slots)
    (context : Context) {body body' : Context → Script}
    (bodies : ∀ names, Alike limitMax clauseSlots (body (context.enter names))
      (body' (context.enter names))) :
    Alike limitMax clauseSlots (first.inScope context body)
      (second.inScope context body') := by
  have locks : first.forUpdate = second.forUpdate := by
    cases varies with
    | mk => rfl
  rw [Select.inScope, Select.inScope, locks]
  split
  · exact .fail _ _
  · rcases varies.targets_vary with
      ⟨missing, missing'⟩ | ⟨chain, chain', slots, target, target', chains⟩
    · rw [missing, missing']
      exact .fail _ _
    · have refs := varies.aliasRefs_eq target target' chains
      have absent := varies.missing_eq chains
      rw [target, target']
      dsimp only
      cases item : first.missingItem? chain with
      | none =>
          rw [item] at absent
          rw [Option.map_eq_none_iff.mp absent.symm, refs]
          apply (Alike.notes _).append
          split
          · exact .fail _ _
          · exact bodies _
      | some item =>
          rw [item] at absent
          obtain ⟨item', missing', display⟩ :=
            Option.map_eq_some_iff.mp absent.symm
          rw [missing']
          dsimp only
          rw [display]
          exact .fail _ _

/-! ## Statements -/

mutual

theorem Expr.Varies.script_alike (context : Context) :
    {first second : Expr} → {slots : List Slot} → first.Varies second slots →
      Alike context.dialect.limitMax slots (first.script context)
        (second.script context)
  | _, _, _, .value varies => varies.script_alike
  | _, _, _, .field column => column.script_alike context
  | _, _, _, .query varies => (varies.script_alike context).parens
  | _, _, _, .unary operator operand => by
      rw [Expr.script, Expr.script, operand.wrapped_eq]
      exact ((operand.script_alike context).parensIf _).keyword_append _
  | _, _, _, .binary operator left right => by
      rw [Expr.script, Expr.script, left.wrapped_eq, right.wrapped_eq]
      exact (((left.script_alike context).parensIf _).append_keyword _).append
        ((right.script_alike context).parensIf _)

theorem Select.Varies.script_alike (context : Context) :
    {first second : Select} → {slots : List Slot} → first.Varies second slots →
      Alike context.dialect.limitMax slots (first.script context)
        (second.script context)
  | _, _, _, .mk distinct forUpdate items target filter constant ordering
      limited skipped => by
      have whole := Select.Varies.mk distinct forUpdate items target filter
        constant ordering limited skipped
      rw [Select.script_eq_inScope, Select.script_eq_inScope]
      apply whole.inScope_alike
      intro names
      have selected := whole.itemsScript_alike (context.enter names)
      have filtered := filterScript_alike constant
        (filter.script_alike (context.enter names))
      have ordered :=
        orderingScript_alike (ordering.scripts_alike (context.enter names))
      have source := target.script_alike (context.enter names)
        (items.script_alike (context.enter names))
      have sources := (selected.append_keyword .fromSources).append source
      have body := (sources.append filtered).append ordered
      have limits := limitsScript_alike (context.enter names) limited skipped
      have clauses := (body.append limits).append (lockScript_alike forUpdate)
      rw [List.nil_append, List.append_nil] at clauses
      exact clauses

theorem SelectItem.AllVary.script_alike (context : Context) :
    {items items' : List SelectItem} → {slots : List Slot} →
      SelectItem.AllVary items items' slots →
      Alike context.dialect.limitMax slots
        (SelectItem.firstSourceScript context items)
        (SelectItem.firstSourceScript context items')
  | _, _, _, .nil => .nil
  | _, _, _, .source varies _ => varies.script_alike context
  | _, _, _, .field column rest => by
      rw [SelectItem.firstSourceScript, SelectItem.firstSourceScript]
      split
      · exact .name _
      · exact rest.script_alike context

theorem Chain.TargetVaries.script_alike (context : Context)
    {implied implied' : Script} :
    {itemSlots : List Slot} → {chain chain' : Option Chain} →
      {slots : List Slot} →
      Chain.TargetVaries itemSlots chain chain' slots →
      Alike context.dialect.limitMax itemSlots implied implied' →
      Alike context.dialect.limitMax slots
        (match chain with
          | some chain => chain.script context
          | none => implied)
        (match chain' with
          | some chain => chain.script context
          | none => implied')
  | _, _, _, _, .none _, inner => inner
  | _, _, _, _, .some _ chain, _ => chain.script_alike context

theorem OrderTerm.AllVary.scripts_alike (context : Context) :
    {terms terms' : List OrderTerm} → {slots : List Slot} →
      OrderTerm.AllVary terms terms' slots →
      AllAlike context.dialect.limitMax slots
        (OrderTerm.scripts context terms) (OrderTerm.scripts context terms')
  | _, _, _, .nil => .nil
  | _, _, _, .cons direction nulls varies rest => by
      rw [OrderTerm.scripts, OrderTerm.scripts]
      refine .cons ?_ (rest.scripts_alike context)
      have directed :=
        (varies.script_alike context).append_keyword direction.keyword
      cases nulls with
      | none =>
          rw [OrderTerm.script, OrderTerm.script]
          exact directed
      | some nulls =>
          rw [OrderTerm.script, OrderTerm.script]
          split
          · exact directed.append_keyword _
          · exact .fail _ _

theorem Chain.Varies.script_alike (context : Context) :
    {first second : Chain} → {slots : List Slot} → first.Varies second slots →
      Alike context.dialect.limitMax slots (first.script context)
        (second.script context)
  | _, _, _, .source varies => varies.script_alike context
  | _, _, _, .join varies => varies.script_alike context

theorem Join.Varies.script_alike (context : Context) :
    {first second : Join} → {slots : List Slot} → first.Varies second slots →
      Alike context.dialect.limitMax slots (first.script context)
        (second.script context)
  | _, _, _, .mk kind left right (.some predicate) => by
      rw [Join.script, Join.script]
      exact (((left.script_alike context).append_keyword kind.keyword).append
        (right.script_alike context)).append
          ((predicate.script_alike context).keyword_append .onPredicate)
  | _, _, _, .mk kind left right .none => by
      rw [Join.script, Join.script, right.display_eq]
      apply (((left.script_alike context).append_keyword kind.keyword).append
        (right.script_alike context)).append
      split
      · exact .fail _ _
      · exact .nil

theorem Source.Varies.script_alike (context : Context) :
    {first second : Source} → {slots : List Slot} → first.Varies second slots →
      Alike context.dialect.limitMax slots (first.script context)
        (second.script context)
  | _, _, _, .table _ => .name _
  | _, _, _, .aliased varies => varies.script_alike context

theorem Alias.Varies.script_alike (context : Context) :
    {first second : Alias} → {slots : List Slot} → first.Varies second slots →
      Alike context.dialect.limitMax slots (first.script context)
        (second.script context)
  | _, _, slots, .mk ref target => by
      rw [Alias.script, Alias.script]
      split
      · exact ((target.script_alike context).append_keyword
          .asName).append_fixed (.name _)
      · exact .fail _ _

theorem AliasTarget.Varies.script_alike (context : Context) :
    {first second : AliasTarget} → {slots : List Slot} →
      first.Varies second slots →
      Alike context.dialect.limitMax slots (first.script context)
        (second.script context)
  | _, _, _, .table _ => .name _
  | _, _, _, .join varies => (varies.script_alike context).parens
  | _, _, _, .query varies => (varies.script_alike context).parens

end

theorem Operand.Varies.wrapped_eq {first second : Operand}
    (varies : first.Varies second slots) (context : Context) :
    first.wrapped context = second.wrapped context := by
  cases varies <;> rfl

mutual

theorem Operand.Varies.script_alike (context : Context) :
    {first second : Operand} → {slots : List Slot} →
      first.Varies second slots →
      Alike context.dialect.limitMax slots (first.script context)
        (second.script context)
  | _, _, _, .select varies => (varies.script_alike context).parensIf _
  | _, _, _, .compound varies => (varies.script_alike context).parensIf _

theorem Compound.Varies.script_alike (context : Context) :
    {first second : Compound} → {slots : List Slot} →
      first.Varies second slots →
      Alike context.dialect.limitMax slots (first.script context)
        (second.script context)
  | _, _, _, .mk operator left right ordering limited skipped => by
      have sides := ((left.script_alike context).append_keyword
        operator.keyword).append (right.script_alike context)
      have ordered :=
        orderingScript_alike (ordering.scripts_alike context.withBareColumns)
      rw [Compound.script, Compound.script]
      exact (sides.append ordered).append
        (limitsScript_alike context limited skipped)

end

/-! ## Compiled statements -/

theorem Operand.Varies.nodeScript_alike {first second : Operand}
    (varies : first.Varies second slots) (context : Context) :
    Alike context.dialect.limitMax slots (first.node.script context)
      (second.node.script context) := by
  cases varies with
  | select inner => exact inner.script_alike context
  | compound inner => exact inner.script_alike context

/-- Alike scripts make the same statement, or none for the same reason. -/
theorem Script.Alike.finish {first second : Script} (database : Database)
    (alike : Alike database.dialect.limitMax slots first second) :
    (∃ error, database.finish first = .error error ∧
        database.finish second = .error error) ∨
      ∃ statement statement', database.finish first = .ok statement ∧
        database.finish second = .ok statement' ∧
        statement.template = statement'.template ∧
        statement.values =
          (Slot.allPairs database.dialect.limitMax slots).map Prod.fst ∧
        statement'.values =
          (Slot.allPairs database.dialect.limitMax slots).map Prod.snd := by
  rw [Database.finish, Database.finish, ← alike.failure]
  cases failure : Script.failure? first with
  | some error => exact .inl ⟨error, rfl, rfl⟩
  | none =>
      have templates :
          Fragment.templateChars database.dialect 0 first.fragments =
            Fragment.templateChars database.dialect 0 second.fragments := by
        rw [← Fragment.templateChars_shape, alike.shapes,
          Fragment.templateChars_shape]
      refine .inr ⟨_, _, rfl, rfl, ?_, ?_, ?_⟩
      · exact congrArg String.ofList templates
      · exact alike.firstValues failure
      · exact alike.secondValues (alike.completes_iff.mp failure)

/-- Where two statements bind different values, a constant was replaced. -/
theorem Slot.constant_mem_of_getElem? {position : Nat} {value value' : Value}
    (first : ((allPairs limitMax slots).map Prod.fst)[position]? = some value)
    (second :
      ((allPairs limitMax slots).map Prod.snd)[position]? = some value') :
    value = value' ∨ Slot.constant value value' ∈ slots := by
  rw [List.getElem?_map, Option.map_eq_some_iff] at first second
  obtain ⟨pair, found, rfl⟩ := first
  obtain ⟨pair', found', rfl⟩ := second
  rw [found] at found'
  cases found'
  obtain ⟨slot, held, bound⟩ := List.mem_flatMap.mp (List.mem_of_getElem? found)
  cases slot with
  | constant left right =>
      rw [pairs, List.mem_singleton] at bound
      rw [bound]
      exact .inr held
  | limitMax =>
      obtain ⟨count, _, rfl⟩ := List.mem_map.mp bound
      exact .inl rfl

/-- Statements that differ in their constants compile to the same template with
the same events, or fail alike, and bind their constants slot by slot. -/
theorem Database.compile_of_varies (database : Database)
    {first second : Operand} (varies : first.Varies second slots) :
    (database.compile first.node).events =
        (database.compile second.node).events ∧
      ((∃ error, (database.compile first.node).result = .error error ∧
          (database.compile second.node).result = .error error) ∨
        ∃ statement statement',
          (database.compile first.node).result = .ok statement ∧
          (database.compile second.node).result = .ok statement' ∧
          statement.template = statement'.template ∧
          statement.values =
            (Slot.allPairs database.dialect.limitMax slots).map Prod.fst ∧
          statement'.values =
            (Slot.allPairs database.dialect.limitMax slots).map Prod.snd ∧
          statement.values.length = statement'.values.length ∧
          ∀ (position : Nat) (value value' : Value),
            statement.values[position]? = some value →
            statement'.values[position]? = some value' →
            value = value' ∨ Slot.constant value value' ∈ slots) := by
  have alike := varies.nodeScript_alike database.context
  simp only [compile, script]
  rcases alike.finish database with
    ⟨error, failed, failed'⟩ |
      ⟨statement, statement', made, made', templates, values, values'⟩
  · rw [failed, failed', alike.events]
    exact ⟨rfl, .inl ⟨error, rfl, rfl⟩⟩
  · rw [made, made', alike.events]
    constructor
    · simp only [templates, values, values', List.length_map]
    · refine .inr ⟨statement, statement', rfl, rfl, templates, values, values',
        ?_, ?_⟩
      · rw [values, values', List.length_map, List.length_map]
      · intro position value value' bound bound'
        rw [values] at bound
        rw [values'] at bound'
        exact Slot.constant_mem_of_getElem? bound bound'

/-- `SELECT * FROM "person" WHERE ? IN (…) LIMIT ? OFFSET ?` -/
def Select.searching (text : String) (items : List Value) (offset : Int64) :
    Select :=
  ⟨[], some (.source (.table ⟨⟨1⟩, none, "person", []⟩)),
    .binary .isIn (.value (.text text)) (.value (.list items)), [], none,
    some offset, false, false⟩

theorem Database.compile_of_varies_searching :
    ∃ statement statement',
      (compile ⟨.sqlite, none⟩ (Operand.select
        (.searching "Ann" [.int 1, .null] 5)).node).result = .ok statement ∧
      (compile ⟨.sqlite, none⟩ (Operand.select
        (.searching "' OR 1 = 1" [.int 7, .text "x"] 9)).node).result =
          .ok statement' ∧
      statement.template = statement'.template ∧
      statement.values =
        [.text "Ann", .int 1, .null, .int (-1), .int 5] ∧
      statement'.values =
        [.text "' OR 1 = 1", .int 7, .text "x", .int (-1), .int 9] := by
  have list := Value.Varies.list [(.int 1, .int 7), (.null, .text "x")]
    (by simp [Value.isList])
  have text : Value.Varies (.text "Ann") (.text "' OR 1 = 1") _ :=
    .scalar rfl rfl
  have filter := Expr.Varies.binary .isIn (.value text) (.value list)
  have varies : Operand.Varies
      (.select (.searching "Ann" [.int 1, .null] 5))
      (.select (.searching "' OR 1 = 1" [.int 7, .text "x"] 9)) _ :=
    .select (.mk false false .nil (.some [] (.source (.table _))) filter rfl
      .nil rfl rfl)
  rcases (compile_of_varies ⟨.sqlite, none⟩ varies).2 with
    ⟨error, failed, _⟩ | ⟨statement, statement', made, made', rest⟩
  · cases failed
  · exact ⟨statement, statement', made, made', rest.1, rest.2.1, rest.2.2.1⟩

end SqlWeave
