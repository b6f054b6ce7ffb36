import SqlWeave.Proofs.Alias.Qualifiers
import SqlWeave.Proofs.Columns.SelectList
import SqlWeave.Proofs.Relations.Transparency

/-!
# Where selected columns come from

A statement selects only columns of what it selects from.  That is checked by
identity, of tables and of aliases; what is written are names, which are found
in several ways.  This module shows that they agree: whatever a column is
qualified by is announced behind `FROM`, as the path of a table or as the name
that follows `AS` (`Database.selected_announced`).
-/

namespace SqlWeave

/-- Tables are told apart by their declaration alone. -/
def Table.DeclaredOnce (tables : List Table) : Prop :=
  ∀ first ∈ tables, ∀ second ∈ tables, first.id = second.id → first = second

/-- What is written for the source lets its columns be qualified in this way: it
is the path of a table, or ends with the name of an alias. -/
def Source.Announces (context : Context) (qualifier : Path) : Source → Prop
  | table declared =>
      Script.fragments (declared.script context) = [.name qualifier]
  | aliased renamed =>
      Script.fragments (renamed.script context) =
        Script.fragments (renamed.target.script context) ++
          [.keyword .asName, .name qualifier]

namespace Select

/-- The sources that the statement selects from. -/
def origins (select : Select) : List Source :=
  match select.chain? with
  | some chain => chain.sources
  | none => []

/-- The path is the name of the column behind what a source announces.  The column
comes from this source, which is written where the statement selects from it. -/
def Announces (context : Context) (select : Select) (field : Field)
    (path : Path) : Prop :=
  ∃ origin ∈ select.origins, ∃ qualifier,
    (SelectItem.field field).ComesFrom origin ∧
    Script.fragments (origin.script context) <:+:
      Script.fragments (select.sourceScript context) ∧
    origin.Announces context qualifier ∧
    path = qualifier.push field.name

end Select

/-! ## What is selected from -/

theorem SelectItem.firstSourceScript_eq (context : Context)
    {items : List SelectItem} {source : Source}
    (found : items.findSome? SelectItem.source? = some source) :
    SelectItem.firstSourceScript context items = source.script context := by
  induction items with
  | nil => cases found
  | cons item rest ih =>
      cases item with
      | source held => rw [firstSourceScript, Option.some.inj found]
      | field field =>
          rw [List.findSome?_cons, source?] at found
          rw [firstSourceScript]
          cases unbound : field.binding.isNone with
          | true =>
              rw [unbound, if_pos rfl] at found
              rw [if_pos rfl, ← Option.some.inj found, Source.script]
          | false =>
              rw [unbound] at found
              exact ih found

/-- What a statement selects from is written as its target. -/
theorem Select.sourceScript_eq (context : Context) {select : Select}
    {chain : Chain} (target : select.chain? = some chain) :
    select.sourceScript context = chain.script context := by
  rw [chain?] at target
  rw [sourceScript]
  cases held : select.chain with
  | some other =>
      rw [held] at target
      cases target
      rfl
  | none =>
      rw [held] at target
      obtain ⟨source, found, rfl⟩ := Option.map_eq_some_iff.mp target
      rw [Chain.script]
      exact SelectItem.firstSourceScript_eq context found

mutual

/-- The sources of a chain are written in it. -/
theorem Chain.written_of_mem_sources {context : Context} {source : Source} :
    (chain : Chain) → (chain.script context).Completes →
      source ∈ chain.sources →
      (source.script context).Completes ∧
        Script.fragments (source.script context) <:+:
          Script.fragments (chain.script context)
  | .source held, completes, member => by
      rw [Chain.script] at completes ⊢
      rw [List.mem_singleton.mp member]
      exact ⟨completes, List.infix_rfl⟩
  | .join join, completes, member => by
      rw [Chain.script] at completes ⊢
      exact Join.written_of_mem_sources join completes member

theorem Join.written_of_mem_sources {context : Context} {source : Source} :
    (join : Join) → (join.script context).Completes →
      source ∈ join.sources →
      (source.script context).Completes ∧
        Script.fragments (source.script context) <:+:
          Script.fragments (join.script context)
  | ⟨left, kind, right, predicate⟩, completes, member => by
      unfold Join.script at completes ⊢
      obtain ⟨sides, _⟩ := (Script.completes_append _ _).mp completes
      obtain ⟨front, last⟩ := (Script.completes_append _ _).mp sides
      obtain ⟨first, _⟩ := (Script.completes_append _ _).mp front
      rw [sides.fragments_append, front.fragments_append,
        first.fragments_append]
      rcases List.mem_append.mp member with earlier | final
      · obtain ⟨whole, inside⟩ :=
          Chain.written_of_mem_sources left first earlier
        exact ⟨whole, (((inside.trans (List.prefix_append _ _).isInfix).trans
          (List.prefix_append _ _).isInfix).trans
            (List.prefix_append _ _).isInfix)⟩
      · rw [List.mem_singleton.mp final]
        exact ⟨last, (List.suffix_append _ _).isInfix.trans
          (List.prefix_append _ _).isInfix⟩

end

/-! ## Columns of items -/

/-- The columns that an item stands for come from where the item does. -/
theorem SelectItem.comesFrom_of_mem_fields {item : SelectItem} {field : Field}
    {origin : Source} (member : field ∈ item.fields)
    (from_ : item.ComesFrom origin) :
    (SelectItem.field field).ComesFrom origin := by
  cases item with
  | field column =>
      rw [List.mem_singleton.mp member]
      exact from_
  | source held =>
      cases held with
      | table table =>
          rw [fields, Source.fields] at member
          obtain ⟨index, rfl⟩ := Field.mem_fields_iff.mp member
          exact from_
      | aliased renamed =>
          obtain ⟨ref, target⟩ := renamed
          rw [fields, Source.fields, Alias.fields] at member
          obtain ⟨column, _, rfl⟩ := List.mem_map.mp member
          cases origin with
          | table declared => cases from_
          | aliased other => exact ⟨other, rfl, beq_iff_eq.mp from_⟩

theorem SelectItem.mem_allFields_iff {items : List SelectItem}
    {field : Field} :
    field ∈ SelectItem.allFields items ↔
      ∃ item ∈ items, field ∈ item.fields := by
  induction items with
  | nil => simp [allFields]
  | cons item rest ih => simp [allFields, ih]

theorem Select.comesFrom_of_mem_projection {select : Select} {chain : Chain}
    (items : select.missingItem? chain = none) {field : Field}
    (member : field ∈ select.projection) :
    ∃ origin ∈ chain.sources, (SelectItem.field field).ComesFrom origin := by
  have held : ∃ item ∈ select.items, field ∈ item.fields := by
    obtain ⟨items, _, _, _, _, _, _, _⟩ := select
    rw [projection] at member
    exact SelectItem.mem_allFields_iff.mp member
  obtain ⟨item, selected, among⟩ := held
  obtain ⟨origin, source, from_⟩ :=
    (select.missingItem?_eq_none_iff chain).mp items item selected
  exact ⟨origin, source, SelectItem.comesFrom_of_mem_fields among from_⟩

/-! ## Qualifiers -/

section

variable {context : Context} {field : Field} {path : Path} {origin : Source}

/-- A column of a table is qualified by what is written for the table. -/
theorem Field.announced_of_unbound (unbound : field.binding = none)
    (qualified : context.bareColumns = false)
    (from_ : (SelectItem.field field).ComesFrom origin)
    (declared : ∀ table, origin = .table table → table.id = field.table.id →
      table = field.table)
    (written : field.script context = Script.name path) :
    ∃ qualifier, origin.Announces context qualifier ∧
      path = qualifier.push field.name := by
  have same : origin.sameAs (.table field.table) = true := by
    rw [SelectItem.ComesFrom, unbound] at from_
    exact from_
  cases origin with
  | aliased renamed => cases same
  | table table =>
      rw [declared table rfl (beq_iff_eq.mp same)]
      refine ⟨context.tablePath field.table, rfl, ?_⟩
      rw [Field.script, qualified, Context.fieldPath, unbound] at written
      cases written
      rfl

/-- A column of an alias is qualified by the name that follows the alias. -/
theorem Field.announced_of_bound {ref : AliasRef}
    (bound : field.binding = some ref)
    (qualified : context.bareColumns = false)
    (from_ : (SelectItem.field field).ComesFrom origin)
    (actual : ∀ renamed, origin = .aliased renamed → renamed.ref.id = ref.id →
      renamed.ref = ref)
    (completes : (origin.script context).Completes)
    (written : field.script context = Script.name path) :
    ∃ qualifier, origin.Announces context qualifier ∧
      path = qualifier.push field.name := by
  have copy : ∃ renamed, origin = .aliased renamed ∧
      renamed.ref.id = ref.id := by
    rw [SelectItem.ComesFrom, bound] at from_
    exact from_
  obtain ⟨⟨own, target⟩, rfl, same⟩ := copy
  obtain rfl : own = ref := actual ⟨own, target⟩ rfl same
  rw [Source.script, Alias.script] at completes
  cases named : context.nameOfRef own with
  | error error =>
      rw [named] at completes
      exact absurd completes (Script.not_completes_fail error)
  | ok name =>
      rw [named] at completes
      have path_eq : context.fieldPath field = .ok ⟨[name, field.name]⟩ :=
        (context.fieldPath_eq_ok_iff_of_bound bound).mpr ⟨name, named, rfl⟩
      rw [Field.script, qualified, if_neg Bool.false_ne_true, path_eq]
        at written
      refine ⟨⟨[name]⟩, ?_, ?_⟩
      · obtain ⟨renamed, _⟩ := (Script.completes_append _ _).mp completes
        obtain ⟨inner, _⟩ := (Script.completes_append _ _).mp renamed
        rw [Source.Announces, Alias.script, named]
        show Script.fragments (_ ++ _ ++ _) = _
        rw [renamed.fragments_append, inner.fragments_append,
          List.append_assoc]
        rfl
      · cases written
        rfl

end

/-- The columns of a statement that is written to its end are qualified by what
its sources announce. -/
theorem Select.announces_of_mem_projection {context : Context} {select : Select}
    {chain : Chain} (admitted : Admitted context select chain)
    (qualified : context.bareColumns = false)
    (aliases : AliasRef.Coherent
      (select.projection.filterMap Field.binding ++ select.refs))
    (tables : Table.DeclaredOnce (select.projection.map Field.table ++
      select.origins.filterMap Source.table?))
    (completes : (select.sourceScript (select.scope context)).Completes)
    {field : Field} (member : field ∈ select.projection) {path : Path}
    (written : field.script (select.scope context) = Script.name path) :
    select.Announces (select.scope context) field path := by
  have sources : select.origins = chain.sources := by
    rw [origins, admitted.target]
  have whole := sourceScript_eq (select.scope context) admitted.target
  rw [whole] at completes
  obtain ⟨origin, held, from_⟩ :=
    comesFrom_of_mem_projection admitted.items member
  obtain ⟨goes, inside⟩ := chain.written_of_mem_sources completes held
  have announced : ∃ qualifier,
      origin.Announces (select.scope context) qualifier ∧
        path = qualifier.push field.name := by
    cases bound : field.binding with
    | none =>
        refine Field.announced_of_unbound bound qualified from_ ?_ written
        rintro table rfl same
        rw [sources] at tables
        exact tables table
          (List.mem_append_right _ (List.mem_filterMap.mpr ⟨_, held, rfl⟩))
          field.table
          (List.mem_append_left _ (List.mem_map_of_mem member)) same
    | some ref =>
        refine Field.announced_of_bound bound qualified from_ ?_ goes written
        rintro renamed rfl same
        exact aliases renamed.ref
          (List.mem_append_right _ (ref_mem_refs admitted.target held)) ref
          (List.mem_append_left _ (List.mem_filterMap.mpr ⟨_, member, bound⟩))
          same
  obtain ⟨qualifier, announces, equal⟩ := announced
  rw [← sources] at held
  rw [← whole] at inside
  exact ⟨origin, held, qualifier, from_, inside, announces, equal⟩

namespace Database

/-- Every column that a compiled statement selects is written as its name behind
the path of a table, or the name of an alias, that is written behind `FROM`.
Columns in the ordering of a compound statement have no qualifier. -/
theorem selected_announced (database : Database) (statement : Operand)
    {compiled : Statement}
    (succeeded : (database.compile statement.node).result = .ok compiled)
    {select : Select} {enclosing : List Select}
    (member : ⟨.select select, enclosing, false⟩ ∈ statement.parts)
    (aliases : AliasRef.Coherent
      (select.projection.filterMap Field.binding ++ select.refs))
    (tables : Table.DeclaredOnce (select.projection.map Field.table ++
      select.origins.filterMap Source.table?)) :
    ∃ paths rest,
      Script.fragments (select.script (database.context.within enclosing)) =
        select.opening ++ select.list paths ++
          .keyword .fromSources :: (Script.fragments (select.sourceScript
            (database.context.within (select :: enclosing))) ++ rest) ∧
      Script.fragments (select.script (database.context.within enclosing)) <:+:
        compiled.fragments ∧
      List.Forall₂
        (select.Announces (database.context.within (select :: enclosing)))
        select.projection paths := by
  obtain ⟨completes, rfl⟩ := (database.compile_eq_ok_iff _ _).mp succeeded
  have stands := statement.node_holds database.context completes select
    enclosing false member
  rw [Context.inOrdering_false] at stands
  have qualified : (database.context.within enclosing).bareColumns = false :=
    database.context.bareColumns_within enclosing
  obtain ⟨chain, admitted⟩ := Select.admitted_of_completes stands.completes
  obtain ⟨paths, rest, names, sources, written⟩ :=
    Select.exists_paths stands.completes
  refine ⟨paths, rest, written, stands.written, ?_⟩
  have each := (List.forall₂_and_left _ _).mpr
    ⟨fun _ selected => selected, names⟩
  exact each.imp fun field path held =>
    Select.announces_of_mem_projection admitted qualified aliases tables
      sources held.1 held.2

end Database

/-- `SELECT "person"."id" FROM "person"` -/
def Select.keys : Select :=
  ⟨[.source (.table .people)], none, Expr.ofBool true, [], none, none, false,
    false⟩

/-- The keys of people as a sub-query. -/
def Source.keys : Source := .aliased ⟨⟨⟨1⟩, none⟩, .query .keys⟩

/-- The keys of people, once from their table and once from a sub-query. -/
def Select.keysTwice : Select :=
  ⟨[.source (.table .people), .source .keys],
    some (.join ⟨.source (.table .people), .cross, .keys, none⟩),
    Expr.ofBool true, [], none, none, false, false⟩

theorem Select.keysTwice_declaredOnce :
    Table.DeclaredOnce (keysTwice.projection.map Field.table ++
      keysTwice.origins.filterMap Source.table?) := by
  have people : ∀ table ∈ keysTwice.projection.map Field.table ++
      keysTwice.origins.filterMap Source.table?, table = .people := by
    show ∀ table ∈ [Table.people, Table.people, Table.people], _
    simp
  intro first held second held' _
  rw [people first held, people second held']

namespace Database

/-- The table is announced in the default schema, and the sub-query under the
name that is generated for it. -/
theorem selected_announced_keysTwice :
    ∃ compiled paths,
      (compile ⟨.postgres, some "main"⟩ (Operand.select .keysTwice).node).result
        = .ok compiled ∧
      List.Forall₂
        (Select.keysTwice.Announces
          ((Database.context ⟨.postgres, some "main"⟩).within [.keysTwice]))
        Select.keysTwice.projection paths ∧
      paths = [⟨["main", "person", "id"]⟩, ⟨["t1", "id"]⟩] := by
  obtain ⟨paths, rest, written, _, announced⟩ := selected_announced
    ⟨.postgres, some "main"⟩ (.select .keysTwice) rfl List.mem_cons_self
    (by decide) Select.keysTwice_declaredOnce
  refine ⟨_, paths, rfl, announced, ?_⟩
  cases announced with
  | cons first others =>
      cases others with
      | cons second none =>
          cases none
          cases written
          rfl

end Database

end SqlWeave
