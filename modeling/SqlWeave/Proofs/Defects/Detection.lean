import SqlWeave.Proofs.Defects.Parts
import SqlWeave.Proofs.Script.Compiled

/-!
# Defects are found

Compiling a statement fails if and only if one of its parts is defective
(`Database.compile_eq_error_iff`).  For each kind of part the script completes
exactly if the part is sound; the scripts of larger parts are joined from those
of smaller ones, so the equivalence is carried upwards over the syntax.
-/

namespace SqlWeave

open PlacedPart (Defective AllSound)

variable {outer : Context} {enclosing : List Select} {bare : Bool}

/-! ## Constants and columns -/

theorem Value.completes_boundScript_iff (value : Value) :
    value.boundScript.Completes ↔ ∀ inner, value ≠ .list inner := by
  cases value <;> simp [boundScript]

theorem Value.completes_script_iff (constant : Value) :
    constant.script.Completes ↔
      ¬ Defective outer ⟨.constant constant, enclosing, bare⟩ := by
  cases constant with
  | list items =>
      rw [script, listScript]
      cases items with
      | nil =>
          have wrong : Defective outer
              ⟨.constant (.list []), enclosing, bare⟩ := .emptyList
          simpa using wrong
      | cons item rest =>
          rw [List.isEmpty_cons, if_neg Bool.false_ne_true,
            Script.completes_parens, Script.completes_commaSeparated]
          simp only [List.forall_mem_map, completes_boundScript_iff]
          constructor
          · intro each wrong
            cases wrong with
            | nestedList held => exact each _ held _ rfl
          · intro sound value held inner equal
            exact sound (.nestedList (equal ▸ held))
  | _ =>
      refine iff_of_true ?_ fun wrong => nomatch wrong
      first | exact Script.completes_keyword _ | exact Script.completes_parameter _

/-- An alias of a statement within others is named if it has a name or one of
them registers it. -/
theorem Context.nameOf_within_eq_error_iff (scopes : outer.scopes = [])
    (opens : outer.Opens enclosing) (id : AliasId) :
    (∃ error, (outer.within enclosing).nameOf id = .error error) ↔
      ∀ select ∈ enclosing, id ∉ select.refs.map AliasRef.id := by
  induction enclosing with
  | nil => simp [within, nameOf, scopes]
  | cons select rest ih =>
      rw [List.forall_mem_cons, ← ih opens.1]
      show (∃ error, ((outer.within rest).enter
        (select.names (outer.within rest))).nameOf id = .error error) ↔ _
      cases found : (select.names (outer.within rest)).nameOf? id with
      | some name =>
          rw [nameOf_enter_of_some _ found]
          have member := AliasNames.mem_assigned_of_nameOf? found
          have registered := Select.id_mem_refs_of_mem_names member
          simp [registered]
      | none =>
          rw [nameOf_enter_of_none _ found]
          have unregistered : id ∉ select.refs.map AliasRef.id := by
            intro registered
            obtain ⟨ref, held, rfl⟩ := List.mem_map.mp registered
            obtain ⟨name, member⟩ :=
              AliasNames.registered_of_registerAll opens.2 held
            exact AliasNames.nameOf?_eq_none_iff.mp found
              (List.mem_map_of_mem member)
          simp [unregistered]

/-- The name of an alias is missing only if it has none of its own. -/
theorem Context.nameOfRef_eq_error_iff (context : Context) (ref : AliasRef) :
    (∃ error, context.nameOfRef ref = .error error) ↔
      ref.name = none ∧ ∃ error, context.nameOf ref.id = .error error := by
  rw [nameOfRef]
  cases ref.name <;> simp

theorem Context.fieldPath_eq_error_iff (context : Context) (field : Field) :
    (∃ error, context.fieldPath field = .error error) ↔
      ∃ ref, field.binding = some ref ∧
        ∃ error, context.nameOfRef ref = .error error := by
  rw [fieldPath]
  cases field.binding with
  | none => simp [pure, Except.pure]
  | some ref =>
      simp only [bind, Except.bind, pure, Except.pure]
      cases resolved : context.nameOfRef ref <;> simp [resolved]

theorem Field.completes_script_iff (scopes : outer.scopes = [])
    (opens : outer.Opens enclosing) (field : Field) :
    (field.script (outer.within enclosing)).Completes ↔
      ¬ Defective outer ⟨.column field, enclosing, outer.bareColumns⟩ := by
  rw [Field.script, Context.bareColumns_within]
  cases outer.bareColumns with
  | true =>
      refine iff_of_true (Script.completes_name _) fun wrong => ?_
      cases wrong
  | false =>
      have named := Context.fieldPath_eq_error_iff (outer.within enclosing) field
      simp only [Context.nameOfRef_eq_error_iff,
        Context.nameOf_within_eq_error_iff scopes opens] at named
      have wrong : Defective outer ⟨.column field, enclosing, false⟩ ↔
          ∃ error, (outer.within enclosing).fieldPath field = .error error := by
        rw [named]
        constructor
        · rintro (_ | _ | _ | _ | _ | _ | _ | _ | ⟨bound, nameless, around⟩)
          exact ⟨_, bound, nameless, around⟩
        · rintro ⟨ref, bound, nameless, around⟩
          exact .unnamed bound nameless around
      rw [wrong]
      cases (outer.within enclosing).fieldPath field <;> simp

/-! ## The checks of a statement -/

theorem SelectItem.isIn_eq_false_iff (item : SelectItem) (chain : Chain) :
    item.isIn chain = false ↔
      ∀ origin ∈ chain.sources, ¬ item.ComesFrom origin := by
  cases item with
  | source held => simp [isIn, Chain.contains, ComesFrom]
  | field column =>
      simp only [isIn, ComesFrom]
      cases column.binding with
      | none => simp [Chain.contains]
      | some ref =>
          simp only [Chain.holdsAlias, List.any_eq_false]
          refine forall₂_congr fun origin _ => not_congr ?_
          cases origin <;> simp

theorem Select.missingItem?_eq_none_iff (select : Select) (chain : Chain) :
    select.missingItem? chain = none ↔
      ∀ item ∈ select.items, ∃ origin ∈ chain.sources,
        item.ComesFrom origin := by
  simp only [missingItem?, List.find?_eq_none, Bool.not_eq_true',
    SelectItem.isIn_eq_false_iff]
  simp

theorem Select.chain?_eq_none_iff (select : Select) :
    select.chain? = none ↔
      select.chain = none ∧ ∀ item ∈ select.items, item.source? = none := by
  rw [chain?]
  cases select.chain <;> simp

theorem Context.dialect_within (outer : Context) (enclosing : List Select) :
    (outer.within enclosing).dialect = outer.dialect := by
  induction enclosing with
  | nil => rfl
  | cons select rest ih => exact ih

/-- A `SELECT` is sound if it passes its checks and registers its aliases. -/
theorem Select.sound_iff (select : Select) :
    ¬ Defective outer ⟨.select select, enclosing, bare⟩ ↔
      (select.forUpdate && !outer.dialect.forUpdate) = false ∧
        (∃ chain, select.chain? = some chain ∧
          select.missingItem? chain = none) ∧
        (select.registration (outer.within enclosing)).failure = none := by
  constructor
  · intro sound
    refine ⟨?_, ?_, ?_⟩
    · by_contra asked
      rw [Bool.not_eq_false, Bool.and_eq_true, Bool.not_eq_true'] at asked
      exact sound (.lock asked.1 asked.2)
    · cases target : select.chain? with
      | none =>
          obtain ⟨unstated, implied⟩ := select.chain?_eq_none_iff.mp target
          exact absurd (.sourceless unstated implied) sound
      | some chain =>
          refine ⟨chain, rfl, (select.missingItem?_eq_none_iff chain).mpr ?_⟩
          intro item selected
          by_contra absent
          exact sound (.missing target selected fun origin held from_ =>
            absent ⟨origin, held, from_⟩)
    · by_contra failed
      obtain ⟨before, ref, after, order, clash⟩ :=
        AliasNames.failure_registerAll_ne_none_iff.mp failed
      exact sound (.nameHeld order clash)
  · rintro ⟨lock, ⟨chain, target, items⟩, registered⟩ wrong
    cases wrong with
    | lock asked lacking => simp [asked, lacking] at lock
    | sourceless unstated implied =>
        rw [select.chain?_eq_none_iff.mpr ⟨unstated, implied⟩] at target
        cases target
    | missing target' selected absent =>
        rw [target] at target'
        cases target'
        obtain ⟨origin, held, from_⟩ :=
          (select.missingItem?_eq_none_iff chain).mp items _ selected
        exact absent origin held from_
    | nameHeld order clash =>
        exact AliasNames.failure_registerAll_ne_none_iff.mpr
          ⟨_, _, _, order, clash⟩ registered

/-- A statement is written to its end if it is sound and its clauses are
written to their ends. -/
theorem Select.completes_script_iff (select : Select) :
    (select.script (outer.within enclosing)).Completes ↔
      ¬ Defective outer ⟨.select select, enclosing, bare⟩ ∧
        (select.clausesScript
          (outer.within (select :: enclosing))).Completes := by
  rw [sound_iff]
  constructor
  · intro completes
    obtain ⟨chain, admitted⟩ := admitted_of_completes completes
    have lock := admitted.lock
    rw [Context.dialect_within] at lock
    exact ⟨⟨lock, ⟨chain, admitted.target, admitted.items⟩,
      admitted.registered⟩, admitted.clauses⟩
  · rintro ⟨⟨lock, ⟨chain, target, items⟩, registered⟩, clauses⟩
    rw [← Context.dialect_within outer enclosing] at lock
    have admitted : Admitted (outer.within enclosing) select chain :=
      ⟨lock, target, items, registered, clauses⟩
    rw [admitted.script_eq, Script.completes_append]
    exact ⟨Script.completes_notes _, clauses⟩

/-! ## The clauses of a statement -/

/-- Each of the aliases has a name. -/
def Context.NamesAll (context : Context) (aliases : List Alias) : Prop :=
  ∀ renamed ∈ aliases, ∃ name, context.nameOfRef renamed.ref = .ok name

theorem Context.NamesAll.mono {context : Context} {aliases more : List Alias}
    (named : context.NamesAll more) (subset : aliases ⊆ more) :
    context.NamesAll aliases :=
  fun renamed member => named renamed (subset member)

/-- All aliases of a statement have names in its clauses. -/
theorem Select.namesAll_scope {context : Context} {select : Select}
    (succeeded : (select.registration context).failure = none) :
    (select.scope context).NamesAll select.aliases := by
  intro renamed member
  rw [Context.nameOfRef]
  cases renamed.ref.name with
  | some name => exact ⟨name, rfl⟩
  | none =>
      obtain ⟨name, registered⟩ :=
        AliasNames.registered_of_registerAll succeeded
          (List.mem_map_of_mem member)
      refine ⟨name, Context.nameOf_enter_of_some _ ?_⟩
      exact (select.names_distinct context).nameOf?_eq_some_iff.mpr registered

theorem Select.namesAll_target {context : Context} {select : Select}
    {chain : Chain}
    (succeeded : (select.registration context).failure = none)
    (target : select.chain? = some chain) :
    (select.scope context).NamesAll chain.aliases := by
  apply (namesAll_scope succeeded).mono
  rw [aliases_of_target target]
  exact List.subset_append_right _ _

theorem limitsScript_completes (context : Context)
    (limit offset : Option Int64) :
    (limitsScript context limit offset).Completes := by
  unfold limitsScript
  rw [Script.completes_append]
  constructor
  · split <;> simp
  · split <;> simp

theorem completes_orderingScript_iff (scripts : List Script) :
    (orderingScript scripts).Completes ↔
      ∀ script ∈ scripts, script.Completes := by
  rw [orderingScript]
  cases scripts with
  | nil => simp
  | cons script rest =>
      rw [List.isEmpty_cons, if_neg Bool.false_ne_true,
        Script.completes_append, Script.completes_commaSeparated]
      simp

/-- A constant filter is not compiled, but it could not fail either. -/
theorem completes_filterScript_iff (context : Context) (filter : Expr) :
    (filterScript filter.asBool? (filter.script context)).Completes ↔
      (filter.script context).Completes := by
  cases constant : filter.asBool? with
  | none => simp [filterScript]
  | some truth =>
      rw [Expr.eq_ofBool_of_asBool? constant, Expr.ofBool, Expr.script]
      cases truth <;> simp [filterScript, Value.script, Value.boundScript]

theorem Select.completes_itemsScript_iff (context : Context)
    (select : Select) :
    (select.itemsScript context).Completes ↔
      ∀ field ∈ select.projection, (field.script context).Completes := by
  have leading : (Script.keyword .select ++
      if select.distinct then Script.keyword .distinct else []).Completes := by
    cases select.distinct <;> simp
  rw [itemsScript, Script.completes_append, and_iff_right leading]
  obtain ⟨items, _, _, _, _, _, _, _⟩ := select
  cases items with
  | nil => simp [projection, SelectItem.allFields]
  | cons item rest =>
      rw [List.isEmpty_cons, if_neg Bool.false_ne_true,
        Script.completes_commaSeparated, List.forall_mem_map]

/-- What has to complete for the clauses of a statement to be written. -/
theorem Select.completes_clausesScript_iff (context : Context)
    (select : Select) :
    (select.clausesScript context).Completes ↔
      (∀ field ∈ select.projection, (field.script context).Completes) ∧
        (select.sourceScript context).Completes ∧
        (select.filter.script context).Completes ∧
        ∀ script ∈ OrderTerm.scripts context select.ordering,
          script.Completes := by
  have locking : (if select.forUpdate then Script.keyword .forUpdate
      else []).Completes := by
    cases select.forUpdate <;> simp
  simp only [clausesScript, Script.completes_append,
    Script.completes_keyword, completes_itemsScript_iff,
    completes_filterScript_iff, completes_orderingScript_iff,
    limitsScript_completes, locking, and_true, and_assoc]

/-! ## Statements -/

theorem OrderTerm.completes_script_iff (context : Context)
    (term : OrderTerm) :
    (term.script context).Completes ↔
      (term.nulls.isSome = true → context.dialect.nullsOrdering = true) ∧
        (term.expr.script context).Completes := by
  obtain ⟨expr, direction, nulls⟩ := term
  cases nulls with
  | none => simp [script]
  | some nulls =>
      cases supported : context.dialect.nullsOrdering <;>
        simp [script, supported]

theorem OrderTerm.sound_iff (term : OrderTerm) :
    ¬ Defective outer ⟨.term term, enclosing, bare⟩ ↔
      (term.nulls.isSome = true → outer.dialect.nullsOrdering = true) := by
  constructor
  · intro sound asked
    by_contra lacking
    exact sound (.nulls asked (Bool.not_eq_true _ ▸ lacking))
  · intro supported wrong
    cases wrong with
    | nulls asked lacking => simp [supported asked] at lacking

theorem Join.sound_iff (join : Join) :
    ¬ Defective outer ⟨.link join, enclosing, bare⟩ ↔
      (join.predicate = none → join.kind.needsPredicate = false) := by
  constructor
  · intro sound without
    by_contra needed
    exact sound (.unconditional (Bool.not_eq_false _ ▸ needed) without)
  · intro allowed wrong
    cases wrong with
    | unconditional needed without => simp [allowed without] at needed

/-- A statement is written to its end if its parts are sound, provided that this
holds of its clauses wherever they have a scope. -/
theorem Select.completes_iff_of_clauses (scopes : outer.scopes = [])
    (opens : outer.Opens enclosing) {select : Select}
    (source : outer.Opens (select :: enclosing) →
      ((select.sourceScript (outer.within (select :: enclosing))).Completes ↔
        AllSound outer
          (select.sourceParts outer.bareColumns (select :: enclosing))))
    (filtered : outer.Opens (select :: enclosing) →
      ((select.filter.script
          (outer.within (select :: enclosing))).Completes ↔
        AllSound outer
          (select.filter.parts outer.bareColumns (select :: enclosing))))
    (ordered : outer.Opens (select :: enclosing) →
      ((∀ script ∈ OrderTerm.scripts (outer.within (select :: enclosing))
          select.ordering, script.Completes) ↔
        AllSound outer (OrderTerm.allParts outer.bareColumns
          (select :: enclosing) select.ordering))) :
    (select.script (outer.within enclosing)).Completes ↔
      AllSound outer (select.parts outer.bareColumns enclosing) := by
  rw [Select.parts_eq, AllSound.cons_iff, Select.completes_script_iff]
  -- Unless the statement itself is sound, no scope opens for its clauses.
  refine and_congr_right fun sound => ?_
  have opens' : outer.Opens (select :: enclosing) :=
    ⟨opens, (select.sound_iff.mp sound).2.2⟩
  have columns : (∀ field ∈ select.projection,
      (field.script (outer.within (select :: enclosing))).Completes) ↔
      AllSound outer (select.projection.map fun field =>
        ⟨.column field, select :: enclosing, outer.bareColumns⟩) := by
    simp only [AllSound, List.forall_mem_map,
      Field.completes_script_iff scopes opens']
  rw [Select.completes_clausesScript_iff, columns, source opens',
    filtered opens', ordered opens']
  simp only [AllSound.append_iff, and_assoc]

mutual

/-- An expression is written to its end if its parts are sound. -/
theorem Expr.completes_iff (scopes : outer.scopes = []) :
    (enclosing : List Select) → outer.Opens enclosing → (expr : Expr) →
      ((expr.script (outer.within enclosing)).Completes ↔
        AllSound outer (expr.parts outer.bareColumns enclosing))
  | enclosing, opens, .value constant => by
      rw [Expr.script, Expr.parts, AllSound.cons_iff,
        and_iff_left AllSound.nil]
      exact constant.completes_script_iff
  | enclosing, opens, .field field => by
      rw [Expr.script, Expr.parts, AllSound.cons_iff,
        field.completes_script_iff scopes opens]
      simp
  | enclosing, opens, .query select => by
      rw [Expr.script, Expr.parts, Script.completes_parens]
      exact Select.completes_iff scopes enclosing opens select
  | enclosing, opens, .unary operator operand => by
      rw [Expr.script, Expr.parts, Script.completes_append,
        Script.completes_parensIf,
        Expr.completes_iff scopes enclosing opens operand]
      simp [Operator.script]
  | enclosing, opens, .binary operator left right => by
      rw [Expr.script, Expr.parts, Script.completes_append,
        Script.completes_append, Script.completes_parensIf,
        Script.completes_parensIf, AllSound.append_iff,
        Expr.completes_iff scopes enclosing opens left,
        Expr.completes_iff scopes enclosing opens right]
      simp [Operator.script]

theorem Select.completes_iff (scopes : outer.scopes = []) :
    (enclosing : List Select) → outer.Opens enclosing → (select : Select) →
      ((select.script (outer.within enclosing)).Completes ↔
        AllSound outer (select.parts outer.bareColumns enclosing))
  | enclosing, opens,
    ⟨items, chain, filter, ordering, limit, offset, distinct, forUpdate⟩ => by
      apply Select.completes_iff_of_clauses scopes opens
      case source =>
        intro opens'
        rw [Select.sourceScript, Select.sourceParts]
        cases chain with
        | some chain =>
            exact Chain.completes_iff scopes _ opens' chain
              (Select.namesAll_target opens'.2 rfl)
        | none =>
            refine SelectItem.first_completes_iff scopes _ opens' items ?_
            intro source found
            refine @Select.namesAll_target _ _ (.source source) opens'.2 ?_
            rw [Select.chain?, found]
            rfl
      case filtered =>
        exact fun opens' => Expr.completes_iff scopes _ opens' filter
      case ordered =>
        exact fun opens' =>
          OrderTerm.all_complete_iff scopes _ opens' ordering

theorem SelectItem.first_completes_iff (scopes : outer.scopes = []) :
    (enclosing : List Select) → outer.Opens enclosing →
      (items : List SelectItem) →
      (∀ source, items.findSome? SelectItem.source? = some source →
        (outer.within enclosing).NamesAll source.aliases) →
      ((SelectItem.firstSourceScript (outer.within enclosing)
        items).Completes ↔
        AllSound outer
          (SelectItem.firstParts outer.bareColumns enclosing items))
  | enclosing, opens, [], named => by
      simp [SelectItem.firstSourceScript, SelectItem.firstParts]
  | enclosing, opens, .source source :: rest, named => by
      rw [SelectItem.firstSourceScript, SelectItem.firstParts]
      exact Source.completes_iff scopes enclosing opens source
        (named source rfl)
  | enclosing, opens, .field field :: rest, named => by
      rw [SelectItem.firstSourceScript, SelectItem.firstParts]
      cases unbound : field.binding.isNone with
      | true => simp [Table.script]
      | false =>
          refine SelectItem.first_completes_iff scopes enclosing opens rest ?_
          intro source found
          apply named source
          rw [List.findSome?_cons, SelectItem.source?, unbound]
          exact found

theorem OrderTerm.all_complete_iff (scopes : outer.scopes = []) :
    (enclosing : List Select) → outer.Opens enclosing →
      (terms : List OrderTerm) →
      ((∀ script ∈ OrderTerm.scripts (outer.within enclosing) terms,
        script.Completes) ↔
        AllSound outer
          (OrderTerm.allParts outer.bareColumns enclosing terms))
  | enclosing, opens, [] => by
      simp [OrderTerm.scripts, OrderTerm.allParts]
  | enclosing, opens, ⟨expr, direction, nulls⟩ :: rest => by
      rw [OrderTerm.scripts, OrderTerm.allParts, List.forall_mem_cons,
        List.cons_append, AllSound.cons_iff, AllSound.append_iff,
        OrderTerm.completes_script_iff, OrderTerm.sound_iff,
        Context.dialect_within,
        Expr.completes_iff scopes enclosing opens expr,
        OrderTerm.all_complete_iff scopes enclosing opens rest, and_assoc]

theorem Chain.completes_iff (scopes : outer.scopes = []) :
    (enclosing : List Select) → outer.Opens enclosing → (chain : Chain) →
      (outer.within enclosing).NamesAll chain.aliases →
      ((chain.script (outer.within enclosing)).Completes ↔
        AllSound outer (chain.parts outer.bareColumns enclosing))
  | enclosing, opens, .source source, named => by
      rw [Chain.script, Chain.parts]
      exact Source.completes_iff scopes enclosing opens source named
  | enclosing, opens, .join join, named => by
      rw [Chain.script, Chain.parts]
      exact Join.completes_iff scopes enclosing opens join named

theorem Join.completes_iff (scopes : outer.scopes = []) :
    (enclosing : List Select) → outer.Opens enclosing → (join : Join) →
      (outer.within enclosing).NamesAll join.aliases →
      ((join.script (outer.within enclosing)).Completes ↔
        AllSound outer (join.parts outer.bareColumns enclosing))
  | enclosing, opens, ⟨left, kind, right, predicate⟩, named => by
      have first := Chain.completes_iff scopes enclosing opens left
        (named.mono (List.subset_append_left _ _))
      have second := Source.completes_iff scopes enclosing opens right
        (named.mono (List.subset_append_right _ _))
      unfold Join.script Join.parts
      rw [List.cons_append, List.cons_append, AllSound.cons_iff,
        Join.sound_iff]
      simp only [Script.completes_append, AllSound.append_iff, first, second]
      cases predicate with
      | some predicate =>
          simp [Expr.completes_iff scopes enclosing opens predicate]
      | none =>
          cases kind.needsPredicate <;> simp

theorem Source.completes_iff (scopes : outer.scopes = []) :
    (enclosing : List Select) → outer.Opens enclosing → (source : Source) →
      (outer.within enclosing).NamesAll source.aliases →
      ((source.script (outer.within enclosing)).Completes ↔
        AllSound outer (source.parts outer.bareColumns enclosing))
  | enclosing, opens, .table table, named => by
      simp [Source.script, Source.parts, Table.script]
  | enclosing, opens, .aliased renamed, named => by
      rw [Source.script, Source.parts]
      exact Alias.completes_iff scopes enclosing opens renamed named

theorem Alias.completes_iff (scopes : outer.scopes = []) :
    (enclosing : List Select) → outer.Opens enclosing → (renamed : Alias) →
      (outer.within enclosing).NamesAll (renamed :: renamed.nested) →
      ((renamed.script (outer.within enclosing)).Completes ↔
        AllSound outer (renamed.parts outer.bareColumns enclosing))
  | enclosing, opens, ⟨ref, target⟩, named => by
      obtain ⟨name, found⟩ := named _ List.mem_cons_self
      rw [Alias.script, Alias.parts, show
        (outer.within enclosing).nameOfRef ref = .ok name from found]
      have inner := AliasTarget.completes_iff scopes enclosing opens target
        (named.mono (List.subset_cons_self _ _))
      simp [inner]

theorem AliasTarget.completes_iff (scopes : outer.scopes = []) :
    (enclosing : List Select) → outer.Opens enclosing →
      (target : AliasTarget) →
      (outer.within enclosing).NamesAll target.nested →
      ((target.script (outer.within enclosing)).Completes ↔
        AllSound outer (target.parts outer.bareColumns enclosing))
  | enclosing, opens, .table table, named => by
      simp [AliasTarget.script, AliasTarget.parts, Table.script]
  | enclosing, opens, .join join, named => by
      rw [AliasTarget.script, AliasTarget.parts, Script.completes_parens]
      exact Join.completes_iff scopes enclosing opens join named
  | enclosing, opens, .query select, named => by
      rw [AliasTarget.script, AliasTarget.parts, Script.completes_parens]
      exact Select.completes_iff scopes enclosing opens select

end

/-! ## Compound statements -/

/-- What is wrong depends on the dialect and on the names around it only. -/
theorem PlacedPart.Defective.of_same {first second : Context}
    {placed : PlacedPart} (dialect : first.dialect = second.dialect)
    (names : ∀ enclosing, (first.within enclosing).innerNames =
      (second.within enclosing).innerNames)
    (wrong : placed.Defective first) : placed.Defective second := by
  cases wrong with
  | lock asked lacking => exact .lock asked (dialect ▸ lacking)
  | sourceless unstated implied => exact .sourceless unstated implied
  | missing target selected absent => exact .missing target selected absent
  | nameHeld order clash => exact .nameHeld order (names _ ▸ clash)
  | nulls asked lacking => exact .nulls asked (dialect ▸ lacking)
  | unconditional needed without => exact .unconditional needed without
  | emptyList => exact .emptyList
  | nestedList held => exact .nestedList held
  | unnamed bound nameless around => exact .unnamed bound nameless around

theorem PlacedPart.defective_withBareColumns_iff (placed : PlacedPart) :
    placed.Defective outer.withBareColumns ↔ placed.Defective outer := by
  have names (enclosing : List Select) :
      (outer.withBareColumns.within enclosing).innerNames =
        (outer.within enclosing).innerNames := by
    rw [Context.within_withBareColumns]
    rfl
  constructor
  · exact .of_same rfl names
  · exact .of_same rfl fun enclosing => (names enclosing).symm

mutual

theorem Operand.completes_iff (scopes : outer.scopes = [])
    (qualified : outer.bareColumns = false) : (operand : Operand) →
      ((operand.script outer).Completes ↔ AllSound outer operand.parts)
  | .select select => by
      rw [Operand.script, Operand.parts, Script.completes_parensIf,
        ← qualified]
      exact Select.completes_iff scopes [] trivial select
  | .compound compound => by
      rw [Operand.script, Operand.parts, Script.completes_parensIf]
      exact Compound.completes_iff scopes qualified compound

theorem Compound.completes_iff (scopes : outer.scopes = [])
    (qualified : outer.bareColumns = false) : (compound : Compound) →
      ((compound.script outer).Completes ↔ AllSound outer compound.parts)
  | ⟨left, operator, right, ordering, limit, offset⟩ => by
      have ordered :=
        @OrderTerm.all_complete_iff outer.withBareColumns scopes [] trivial
          ordering
      rw [Compound.script, Compound.parts, AllSound.append_iff,
        AllSound.append_iff, ← Operand.completes_iff scopes qualified left,
        ← Operand.completes_iff scopes qualified right]
      simp only [AllSound, PlacedPart.defective_withBareColumns_iff] at ordered
      simp only [Script.completes_append, Script.completes_keyword,
        completes_orderingScript_iff, limitsScript_completes, and_true,
        AllSound]
      exact and_congr_right fun _ => ordered

end

theorem Operand.script_node (operand : Operand) (context : Context) :
    (operand.node.script context).Completes ↔
      (operand.script context).Completes := by
  cases operand <;>
    simp [node, Node.script, Operand.script]

/-- Compiling a statement fails if and only if one of its parts is
defective. -/
theorem Database.compile_eq_error_iff (database : Database)
    (operand : Operand) :
    (∃ error, (database.compile operand.node).result = .error error) ↔
      ∃ placed ∈ operand.parts, placed.Defective database.context := by
  have complete : (operand.node.script database.context).Completes ↔
      AllSound database.context operand.parts := by
    rw [operand.script_node]
    exact Operand.completes_iff rfl rfl operand
  have failing : (∃ error, (database.compile operand.node).result =
      .error error) ↔ ¬ (operand.node.script database.context).Completes := by
    rw [compile]
    dsimp only
    rw [finish, Database.script, Script.Completes]
    cases (operand.node.script database.context).failure? <;> simp
  rw [failing, complete]
  simp [AllSound]

end SqlWeave
