import SqlWeave.Dialect.Presets
import SqlWeave.Proofs.Alias.ColumnUses
import SqlWeave.Proofs.Script.Compiled

/-!
# Columns of enclosing statements

A sub-query may refer to the columns of an alias that a statement around it
registers.  A database finds the alias by its name, from the innermost statement
outwards, so the reference is captured if a statement in between uses the name
for another alias.  Generated names never do that.  Names that aliases were
given may, since a statement accepts every such name; this module shows that
nothing else can go wrong (`Database.reaches_iff_not_shadow`).
-/

namespace SqlWeave

/-- A statement within the innermost one that registers the alias has another
alias that was given the name. -/
def Select.Shadow (id : AliasId) (name : String) : List Select → Prop
  | [] => False
  | select :: rest =>
      id ∉ select.refs.map AliasRef.id ∧
        ((∃ ref ∈ select.refs, ref.name = some name) ∨ Shadow id name rest)

/-- How the name of an alias is resolved where columns of it are used. -/
structure Context.Names (context : Context) (enclosing : List Select)
    (ref : AliasRef) (name : String) : Prop where
  written : context.nameOfRef ref = .ok name
  visible : name ∈ context.visibleNames
  reaches : context.idOf? name = some ref.id ↔
    ¬ Select.Shadow ref.id name enclosing

variable {context outer : Context} {select : Select} {rest : List Select}
variable {ref : AliasRef} {name : String}

/-- A statement that registers the alias itself resolves its name. -/
theorem Context.names_of_registered
    (coherent : AliasRef.Coherent (ref :: select.refs))
    (succeeded : (select.registration context).failure = none)
    (registered : ref.id ∈ select.refs.map AliasRef.id) :
    ∃ name, (select.scope context).Names (select :: rest) ref name := by
  obtain ⟨held, among, same⟩ := List.mem_map.mp registered
  have equal : held = ref :=
    coherent held (List.mem_cons_of_mem _ among) ref List.mem_cons_self same
  rw [equal] at among
  have inner := coherent.mono (List.subset_cons_self ref select.refs)
  obtain ⟨name, written, member⟩ :=
    Select.nameOfRef_scope inner succeeded among
  refine ⟨name, written, ?_, ?_⟩
  · apply List.mem_flatMap.mpr
    exact ⟨select.names context, List.mem_cons_self, List.mem_map_of_mem member⟩
  · have found : (select.names context).idOf? name = some ref.id :=
      (Select.names_distinct context select).idOf?_eq_some_iff.mpr member
    constructor
    · intro _ shadow
      exact shadow.1 registered
    · intro _
      rw [Select.scope, Context.idOf?_enter]
      exact congrArg (Option.or · _) found

/-- A statement that does not register the alias resolves its name as the
statements around it do, unless it gives the name to an alias of its own. -/
theorem Context.names_of_not_registered
    (coherent : AliasRef.Coherent select.refs)
    (succeeded : (select.registration context).failure = none)
    (foreign : ref.id ∉ select.refs.map AliasRef.id)
    (names : context.Names rest ref name) :
    (select.scope context).Names (select :: rest) ref name := by
  constructor
  · rw [Select.nameOfRef_scope_of_not_mem foreign]
    exact names.written
  · exact List.mem_append_right _ names.visible
  · rw [Select.scope, Context.idOf?_enter]
    show ((select.names context).idOf? name).or _ = _ ↔ _
    cases found : (select.names context).idOf? name with
    | some other =>
        have member := AliasNames.mem_assigned_of_idOf? found
        obtain ⟨source, among, same, origin⟩ :=
          Select.origin_of_mem_names member
        -- A generated name would not be one that is visible from outside.
        have given : source.name = some name := by
          rcases origin with own | ⟨_, free⟩
          · exact own
          · exact absurd names.visible free
        constructor
        · intro reached
          cases reached
          exact absurd (Select.id_mem_refs_of_mem_names member) foreign
        · intro clear
          exact absurd ⟨foreign, .inl ⟨source, among, given⟩⟩ clear
    | none =>
        have unused := AliasNames.idOf?_eq_none_iff.mp found
        have ungiven : ¬ ∃ own ∈ select.refs, own.name = some name := by
          rintro ⟨own, among, given⟩
          obtain ⟨held, member⟩ :=
            AliasNames.registered_of_registerAll succeeded among
          rw [Select.name_eq_of_mem_names coherent among given member] at member
          exact unused (List.mem_map_of_mem member)
        rw [Option.none_or, names.reaches, Select.Shadow]
        simp only [foreign, ungiven, not_false_eq_true, true_and, false_or]

/-- The name of an alias that an enclosing statement registers is resolved to
the alias, unless it is shadowed. -/
theorem Context.exists_names (enclosing : List Select)
    (opens : outer.Opens enclosing)
    (coherent : AliasRef.Coherent (ref :: enclosing.flatMap Select.refs))
    (registered : ∃ select ∈ enclosing, ref.id ∈ select.refs.map AliasRef.id) :
    ∃ name, (outer.within enclosing).Names enclosing ref name := by
  induction enclosing with
  | nil =>
      obtain ⟨select, member, _⟩ := registered
      cases member
  | cons select rest ih =>
      have own : AliasRef.Coherent (ref :: select.refs) :=
        coherent.mono (List.cons_subset_cons ref (List.subset_append_left _ _))
      by_cases here : ref.id ∈ select.refs.map AliasRef.id
      · exact names_of_registered own opens.2 here
      · have around : ∃ select ∈ rest, ref.id ∈ select.refs.map AliasRef.id := by
          obtain ⟨other, member, holds⟩ := registered
          rcases List.mem_cons.mp member with rfl | later
          · exact absurd holds here
          · exact ⟨other, later, holds⟩
        have coherentRest :=
          coherent.mono (List.cons_subset_cons ref (List.subset_append_right _ _))
        obtain ⟨name, names⟩ := ih opens.1 coherentRest around
        exact ⟨name, names_of_not_registered
          (own.mono (List.subset_cons_self ref select.refs)) opens.2 here names⟩

/-- Under its name, a column of an alias that an enclosing statement registers
is found in this alias, unless a statement in between gave the name to another
one. -/
theorem Database.reaches_iff_not_shadow (database : Database)
    {statement : Operand} {compiled : Statement}
    (succeeded : (database.compile statement.node).result = .ok compiled)
    {column : ColumnUse} (member : column ∈ statement.columnUses [])
    (bound : column.field.binding = some ref)
    (coherent :
      AliasRef.Coherent (ref :: column.enclosing.flatMap Select.refs))
    (registered :
      ∃ select ∈ column.enclosing, ref.id ∈ select.refs.map AliasRef.id) :
    ∃ name,
      column.field.script (database.context.within column.enclosing) =
          Script.name ⟨[name, column.field.name]⟩ ∧
        .name ⟨[name, column.field.name]⟩ ∈ compiled.fragments ∧
        ((database.context.within column.enclosing).idOf? name = some ref.id ↔
          ¬ Select.Shadow ref.id name column.enclosing) := by
  obtain ⟨completes, rfl⟩ := (database.compile_eq_ok_iff _ _).mp succeeded
  have covers : (statement.node.script database.context).Covers
      database.context (statement.columnUses []) := by
    cases statement with
    | select query => exact Select.covers database.context [] trivial query
    | compound query => exact Compound.covers database.context [] trivial query
  have written := covers completes column member
  obtain ⟨name, names⟩ :=
    Context.exists_names column.enclosing written.opens coherent registered
  have script :
      column.field.script (database.context.within column.enclosing) =
        Script.name ⟨[name, column.field.name]⟩ := by
    have qualified :
        (database.context.within column.enclosing).bareColumns = false :=
      database.context.bareColumns_within column.enclosing
    have path : (database.context.within column.enclosing).fieldPath
        column.field = .ok ⟨[name, column.field.name]⟩ := by
      rw [Context.fieldPath, bound]
      dsimp only
      rw [names.written]
      rfl
    rw [Field.script, qualified, if_neg Bool.false_ne_true, path]
  refine ⟨name, script, ?_, names.reaches⟩
  have subset := written.subset
  rw [script] at subset
  exact subset List.mem_cons_self

/-- A table of people with a key. -/
def Table.people : Table :=
  ⟨⟨1⟩, none, "person",
    [⟨"id", none, .int, true, false, false, false, none, none⟩]⟩

/-- `SELECT * FROM "person"` -/
def Select.everyone : Select :=
  ⟨[], some (.source (.table .people)), .ofBool true, [], none, none, false,
    false⟩

/-- The key of people, seen through an alias. -/
def Field.key (ref : AliasRef) : Field :=
  ⟨.people, ⟨0, Nat.one_pos⟩, some ref, none⟩

/-- The keys of people in one copy of the table that equal a key of the copy
outside. -/
def Select.matching (outer inner : AliasRef) : Select :=
  ⟨[.field (.key inner)], some (.source (.aliased ⟨inner, .table .people⟩)),
    .binary .eq (.field (.key inner)) (.field (.key outer)), [], none, none,
    false, false⟩

/-- The people whose key is the key that matches it. -/
def Select.correlated (outer inner : AliasRef) : Select :=
  ⟨[], some (.source (.aliased ⟨outer, .table .people⟩)),
    .binary .eq (.field (.key outer)) (.query (.matching outer inner)), [],
    none, none, false, false⟩

/-- The key of the outer copy, where the inner statement compares with it. -/
def ColumnUse.matched (outer inner : AliasRef) : ColumnUse :=
  ⟨.key outer, [.matching outer inner, .correlated outer inner]⟩

theorem ColumnUse.matched_mem (outer inner : AliasRef) :
    matched outer inner ∈
      (Operand.select (.correlated outer inner)).columnUses [] := by
  simp [matched, Operand.columnUses, Select.correlated, Select.columnUses,
    Expr.columnUses, Select.matching, SelectItem.allFields, SelectItem.fields,
    Chain.columnUses, Source.columnUses, Alias.columnUses,
    AliasTarget.columnUses, OrderTerm.allColumnUses]

/-- The inner statement finds the outer copy, since the name that was generated
for it is given to no other one. -/
theorem Database.reaches_iff_not_shadow_correlated :
    ∃ compiled name,
      (compile ⟨.generic, none⟩ (Operand.select (.correlated ⟨⟨1⟩, none⟩
        ⟨⟨2⟩, some "x"⟩)).node).result = .ok compiled ∧
      .name ⟨[name, "id"]⟩ ∈ compiled.fragments ∧
      ((Database.context ⟨.generic, none⟩).within
        (ColumnUse.matched ⟨⟨1⟩, none⟩ ⟨⟨2⟩, some "x"⟩).enclosing).idOf?
          name = some ⟨1⟩ := by
  obtain ⟨name, script, written, reaches⟩ :=
    reaches_iff_not_shadow ⟨.generic, none⟩ rfl
      (ColumnUse.matched_mem ⟨⟨1⟩, none⟩ ⟨⟨2⟩, some "x"⟩) rfl
      (by decide) ⟨.correlated ⟨⟨1⟩, none⟩ ⟨⟨2⟩, some "x"⟩,
        List.mem_cons_of_mem _ List.mem_cons_self, List.mem_cons_self⟩
  refine ⟨_, name, rfl, written, reaches.mpr ?_⟩
  have generated : name = "t1" := by
    cases script
    rfl
  rw [generated]
  rintro ⟨_, ⟨ref, among, given⟩ | ⟨foreign, _⟩⟩
  · rw [List.mem_singleton.mp among] at given
    exact absurd given (by decide)
  · exact foreign List.mem_cons_self

/-- Two copies that were both given the name `x`: the inner statement compares
the key of its own copy with itself. -/
theorem Database.not_forall_reaches :
    ¬ ∀ (database : Database) (statement : Operand) (compiled : Statement),
      (database.compile statement.node).result = .ok compiled →
      ∀ column ∈ statement.columnUses [], ∀ ref : AliasRef,
        column.field.binding = some ref →
        AliasRef.Coherent (ref :: column.enclosing.flatMap Select.refs) →
        (∃ select ∈ column.enclosing,
          ref.id ∈ select.refs.map AliasRef.id) →
        ∀ name,
          column.field.script (database.context.within column.enclosing) =
            Script.name ⟨[name, column.field.name]⟩ →
          (database.context.within column.enclosing).idOf? name =
            some ref.id := by
  intro never
  have reached := never ⟨.generic, none⟩
    (.select (.correlated ⟨⟨1⟩, some "x"⟩ ⟨⟨2⟩, some "x"⟩)) _ rfl
    (.matched ⟨⟨1⟩, some "x"⟩ ⟨⟨2⟩, some "x"⟩)
    (ColumnUse.matched_mem ⟨⟨1⟩, some "x"⟩ ⟨⟨2⟩, some "x"⟩)
    ⟨⟨1⟩, some "x"⟩ rfl (by decide)
    ⟨.correlated ⟨⟨1⟩, some "x"⟩ ⟨⟨2⟩, some "x"⟩,
      List.mem_cons_of_mem _ List.mem_cons_self, List.mem_cons_self⟩ "x" rfl
  cases reached

end SqlWeave
