import SqlWeave.Proofs.Alias.Capture
import SqlWeave.Proofs.Defects.Detection
import SqlWeave.Proofs.Script.Placement

/-!
# Select lists

What a `SELECT` writes between its opening and `FROM`: a star if it has no
items, and otherwise the columns that its items stand for
(`Select.exists_paths`).  Whether it is a star depends on the items and what
else is written depends on their columns, so items that stand for no columns
leave the list empty.  Which sources are such items is said here as well
(`Source.fields_eq_nil_iff`).
-/

namespace SqlWeave

/-! ## Sources without columns -/

/-- The source offers no columns: no table behind it has any, and no `SELECT`
behind it names any. -/
inductive Source.Columnless : Source → Prop where
  | table {table : Table} (undeclared : table.columns = []) :
      Columnless (.table table)
  | copy {ref : AliasRef} {table : Table} (undeclared : table.columns = []) :
      Columnless (.aliased ⟨ref, .table table⟩)
  | join {ref : AliasRef} {join : Join}
      (sources : ∀ source ∈ join.sources, Columnless source) :
      Columnless (.aliased ⟨ref, .join join⟩)
  /-- A star is no column that could be asked for from outside. -/
  | query {ref : AliasRef} {select : Select}
      (fieldless : ∀ field, .field field ∉ select.items)
      (sources : ∀ source, .source source ∈ select.items → Columnless source) :
      Columnless (.aliased ⟨ref, .query select⟩)

/-- The item stands for no columns. -/
def SelectItem.Columnless : SelectItem → Prop
  | source held => held.Columnless
  | field _ => False

theorem Source.columnless_query_iff (ref : AliasRef) (select : Select) :
    (Source.aliased ⟨ref, .query select⟩).Columnless ↔
      ∀ item ∈ select.items, item.Columnless := by
  constructor
  · intro columnless item member
    cases columnless with
    | query fieldless sources =>
        cases item with
        | source source => exact sources source member
        | field field => exact absurd member (fieldless field)
  · intro each
    exact .query (fun field member => each _ member)
      fun source member => each _ member

theorem Table.fields_eq_nil_iff (table : Table) :
    table.fields = [] ↔ table.columns = [] := by
  rw [fields, List.map_eq_nil_iff, ← List.length_eq_zero_iff,
    List.length_finRange, List.length_eq_zero_iff]

mutual

theorem Source.fields_eq_nil_iff : (source : Source) →
    (source.fields = [] ↔ source.Columnless)
  | .table table => by
      rw [Source.fields, table.fields_eq_nil_iff]
      exact ⟨.table, fun columnless => by cases columnless; assumption⟩
  | .aliased ⟨ref, target⟩ => by
      rw [Source.fields, Alias.fields, List.map_eq_nil_iff]
      exact AliasTarget.fields_eq_nil_iff ref target

theorem AliasTarget.fields_eq_nil_iff (ref : AliasRef) :
    (target : AliasTarget) →
      (target.fields = [] ↔ (Source.aliased ⟨ref, target⟩).Columnless)
  | .table table => by
      rw [AliasTarget.fields, table.fields_eq_nil_iff]
      exact ⟨.copy, fun columnless => by cases columnless; assumption⟩
  | .join join => by
      rw [AliasTarget.fields, Join.fields_eq_nil_iff join]
      exact ⟨.join, fun columnless => by cases columnless; assumption⟩
  | .query ⟨items, chain, filter, ordering, limit, offset, distinct,
      forUpdate⟩ => by
      rw [AliasTarget.fields, Select.projection,
        SelectItem.allFields_eq_nil_iff items]
      exact (Source.columnless_query_iff ref ⟨items, chain, filter, ordering,
        limit, offset, distinct, forUpdate⟩).symm

theorem Join.fields_eq_nil_iff : (join : Join) →
    (join.fields = [] ↔ ∀ source ∈ join.sources, source.Columnless)
  | ⟨left, kind, right, predicate⟩ => by
      rw [Join.fields, Join.sources, List.append_eq_nil_iff,
        List.forall_mem_append, List.forall_mem_singleton,
        Chain.fields_eq_nil_iff left, Source.fields_eq_nil_iff right]

theorem Chain.fields_eq_nil_iff : (chain : Chain) →
    (chain.fields = [] ↔ ∀ source ∈ chain.sources, source.Columnless)
  | .source source => by
      rw [Chain.fields, Chain.sources, List.forall_mem_singleton,
        Source.fields_eq_nil_iff source]
  | .join join => by
      rw [Chain.fields, Chain.sources]
      exact Join.fields_eq_nil_iff join

theorem SelectItem.allFields_eq_nil_iff : (items : List SelectItem) →
    (SelectItem.allFields items = [] ↔ ∀ item ∈ items, item.Columnless)
  | [] => by simp [SelectItem.allFields]
  | .source source :: rest => by
      rw [SelectItem.allFields, SelectItem.fields, List.append_eq_nil_iff,
        List.forall_mem_cons, Source.fields_eq_nil_iff source,
        SelectItem.allFields_eq_nil_iff rest]
      rfl
  | .field field :: rest => by
      simp [SelectItem.allFields, SelectItem.fields, SelectItem.Columnless]

end

theorem Select.projection_eq_nil_iff (select : Select) :
    select.projection = [] ↔ ∀ item ∈ select.items, item.Columnless := by
  obtain ⟨items, _, _, _, _, _, _, _⟩ := select
  rw [projection]
  exact SelectItem.allFields_eq_nil_iff items

/-! ## What is written -/

/-- Names with commas between them. -/
def Fragment.listing (paths : List Path) : List Fragment :=
  (paths.map Fragment.name).intersperse (.keyword .comma)

theorem Fragment.listing_eq_nil_iff {paths : List Path} :
    listing paths = [] ↔ paths = [] := by
  rcases paths with _ | ⟨path, _ | ⟨next, rest⟩⟩ <;> simp [listing]

theorem Script.names_completes (paths : List Path) :
    (commaSeparated (paths.map name)).Completes := by
  simp [completes_commaSeparated]

theorem Script.fragments_names (paths : List Path) :
    fragments (commaSeparated (paths.map name)) = Fragment.listing paths := by
  induction paths with
  | nil => rfl
  | cons path rest ih =>
      cases rest with
      | nil => rfl
      | cons next others =>
          show fragments (name path ++ keyword .comma ++
            commaSeparated ((next :: others).map name)) = _
          rw [List.append_assoc, (completes_name path).fragments_append,
            (completes_keyword .comma).fragments_append, ih]
          rfl

/-- The columns are written as these names. -/
def Field.WrittenAs (context : Context) (fields : List Field)
    (paths : List Path) : Prop :=
  List.Forall₂ (fun field path => field.script context = Script.name path)
    fields paths

theorem Field.exists_writtenAs {context : Context} {fields : List Field}
    (completes : ∀ field ∈ fields, (field.script context).Completes) :
    ∃ paths, WrittenAs context fields paths := by
  induction fields with
  | nil => exact ⟨[], .nil⟩
  | cons field rest ih =>
      obtain ⟨first, others⟩ := List.forall_mem_cons.mp completes
      obtain ⟨path, written⟩ := exists_path first
      obtain ⟨paths, tail⟩ := ih others
      exact ⟨path :: paths, .cons written tail⟩

theorem Field.WrittenAs.scripts_eq {context : Context} {fields : List Field}
    {paths : List Path} (written : WrittenAs context fields paths) :
    (fields.map fun field => field.script context) =
      paths.map Script.name := by
  induction written with
  | nil => rfl
  | cons head _ ih => rw [List.map_cons, List.map_cons, head, ih]

namespace Select

/-- What a statement begins with. -/
def opening (select : Select) : List Fragment :=
  .keyword .select :: if select.distinct then [.keyword .distinct] else []

/-- What a statement selects, given the names of its columns. -/
def list (select : Select) (paths : List Path) : List Fragment :=
  if select.items.isEmpty then [.keyword .allColumns]
  else Fragment.listing paths

variable {context : Context} {select : Select}

theorem itemsScript_eq {paths : List Path}
    (written : Field.WrittenAs context select.projection paths) :
    (select.itemsScript context).Completes ∧
      Script.fragments (select.itemsScript context) =
        select.opening ++ select.list paths := by
  have leading : (Script.keyword .select ++
      if select.distinct then Script.keyword .distinct else []).Completes := by
    cases select.distinct <;> rfl
  have opens : Script.fragments (Script.keyword .select ++
      if select.distinct then Script.keyword .distinct else []) =
        select.opening := by
    rw [opening]
    cases select.distinct <;> rfl
  rw [itemsScript, written.scripts_eq, Script.completes_append,
    leading.fragments_append, opens, list, and_iff_right leading]
  cases select.items.isEmpty with
  | true => exact ⟨Script.completes_keyword _, rfl⟩
  | false =>
      rw [if_neg Bool.false_ne_true, if_neg Bool.false_ne_true,
        Script.fragments_names]
      exact ⟨Script.names_completes paths, rfl⟩

/-- A statement that is written to its end writes its opening, its list, `FROM`
and its sources, one after the other. -/
theorem exists_paths (completes : (select.script context).Completes) :
    ∃ paths rest,
      Field.WrittenAs (select.scope context) select.projection paths ∧
        (select.sourceScript (select.scope context)).Completes ∧
        Script.fragments (select.script context) =
          select.opening ++ select.list paths ++
            .keyword .fromSources ::
              (Script.fragments
                (select.sourceScript (select.scope context)) ++ rest) := by
  obtain ⟨chain, admitted⟩ := admitted_of_completes completes
  obtain ⟨columns, sources, _, _⟩ :=
    (completes_clausesScript_iff _ _).mp admitted.clauses
  obtain ⟨paths, written⟩ := Field.exists_writtenAs columns
  obtain ⟨selects, selected⟩ := itemsScript_eq written
  refine ⟨paths, ?rest, written, sources, ?parts⟩
  case parts =>
    rw [admitted.fragments_eq, clausesScript, List.append_assoc,
      List.append_assoc, List.append_assoc, List.append_assoc,
      List.append_assoc, selects.fragments_append,
      (Script.completes_keyword _).fragments_append,
      sources.fragments_append, selected]
    rfl

theorem list_eq_nil_iff {paths : List Path}
    (written : Field.WrittenAs context select.projection paths) :
    select.list paths = [] ↔
      select.items ≠ [] ∧ ∀ item ∈ select.items, item.Columnless := by
  rw [← projection_eq_nil_iff, list]
  cases empty : select.items.isEmpty with
  | true =>
      rw [if_pos rfl]
      simp [List.isEmpty_iff.mp empty]
  | false =>
      have some : select.items ≠ [] := List.isEmpty_eq_false_iff.mp empty
      rw [if_neg Bool.false_ne_true, Fragment.listing_eq_nil_iff,
        and_iff_right some, ← List.length_eq_zero_iff, ← written.length_eq,
        List.length_eq_zero_iff]

end Select

/-- If a statement is written to its end then so is every `SELECT` in it. -/
theorem Operand.node_holds (outer : Context) (operand : Operand) :
    (operand.node.script outer).Holds outer operand.parts := by
  cases operand with
  | select select => exact Select.holds outer.inOrdering_false [] select
  | compound compound => exact Compound.holds outer compound

namespace Database

/-- Every `SELECT` of a compiled statement has a star or the names of its
columns between its opening and `FROM`, and there is nothing exactly if it has
items and all of these are sources without columns. -/
theorem nothing_selected_iff (database : Database) (statement : Operand)
    {compiled : Statement}
    (succeeded : (database.compile statement.node).result = .ok compiled)
    {select : Select} {enclosing : List Select} {bare : Bool}
    (member : ⟨.select select, enclosing, bare⟩ ∈ statement.parts) :
    ∃ paths rest,
      Script.fragments (select.script
          ((database.context.inOrdering bare).within enclosing)) =
        select.opening ++ select.list paths ++ .keyword .fromSources :: rest ∧
      select.opening ++ select.list paths ++ .keyword .fromSources :: rest <:+:
        compiled.fragments ∧
      paths.length = select.projection.length ∧
      (select.list paths = [] ↔
        select.items ≠ [] ∧ ∀ item ∈ select.items, item.Columnless) := by
  obtain ⟨completes, rfl⟩ := (database.compile_eq_ok_iff _ _).mp succeeded
  have stands := statement.node_holds database.context completes select
    enclosing bare member
  obtain ⟨paths, rest, names, _, written⟩ :=
    Select.exists_paths stands.completes
  refine ⟨paths, _, written, ?_, names.length_eq.symm,
    Select.list_eq_nil_iff names⟩
  rw [← written]
  exact stands.written

end Database

/-- `SELECT … FROM (SELECT * FROM "person") AS "s"`, with all columns that `s`
offers. -/
def Select.unstarred : Select :=
  ⟨[.source (.aliased ⟨⟨⟨1⟩, some "s"⟩, .query .everyone⟩)], none,
    Expr.ofBool true, [], none, none, false, false⟩

theorem Select.unstarred_columnless :
    ∀ item ∈ unstarred.items, item.Columnless := by
  intro item member
  rw [List.mem_singleton.mp member]
  exact .query nofun nofun

namespace Database

/-- People have a key, but nothing is selected from the copy of everyone. -/
theorem nothing_selected_iff_unstarred :
    ∃ compiled paths rest,
      (compile ⟨.generic, none⟩ (Operand.select .unstarred).node).result =
        .ok compiled ∧
      .keyword .select :: .keyword .fromSources :: rest <:+:
        compiled.fragments ∧
      Select.unstarred.list paths = [] := by
  obtain ⟨paths, rest, _, inside, _, empty⟩ := nothing_selected_iff
    ⟨.generic, none⟩ (.select .unstarred) rfl List.mem_cons_self
  have nothing := empty.mpr ⟨List.cons_ne_nil _ _, Select.unstarred_columnless⟩
  refine ⟨_, paths, rest, rfl, ?_, nothing⟩
  rw [nothing] at inside
  exact inside

/-- So the list of a compiled statement may be empty. -/
theorem not_forall_list_ne_nil :
    ¬ ∀ (database : Database) (statement : Operand) (compiled : Statement),
      (database.compile statement.node).result = .ok compiled →
      ∀ (select : Select) (enclosing : List Select) (bare : Bool),
        ⟨.select select, enclosing, bare⟩ ∈ statement.parts →
        ∀ list rest,
          Script.fragments (select.script
              ((database.context.inOrdering bare).within enclosing)) =
            select.opening ++ list ++ .keyword .fromSources :: rest →
          list ≠ [] := by
  intro never
  exact never ⟨.generic, none⟩ (.select .unstarred) _ rfl .unstarred [] false
    List.mem_cons_self [] _ rfl rfl

end Database

end SqlWeave
