import SqlWeave.Dialect.Presets
import SqlWeave.Proofs.Alias.Scopes

/-!
# Qualifiers of sources

Columns are qualified by the path of their table or by the name of their alias.
Registration keeps the names of different aliases apart, and nothing else does:
tables are not registered, and an alias may be joined again.  Which sources of
a statement share a qualifier can therefore be told exactly
(`Select.qualifier_eq_iff`).
-/

namespace SqlWeave

namespace Context

/-- The schema that a table is addressed in. -/
def schemaOf (context : Context) (table : Table) : Option String :=
  table.schema.or context.defaultSchema

theorem tablePath_eq (context : Context) (table : Table) :
    context.tablePath table =
      ⟨(context.schemaOf table).toList ++ [table.name]⟩ := by
  rw [tablePath, schemaOf]
  cases declared : table.schema with
  | some schema =>
      rw [Table.path, declared]
      rfl
  | none =>
      cases context.defaultSchema with
      | some schema => rfl
      | none =>
          rw [Table.path, declared]
          rfl

theorem tablePath_eq_iff (context : Context) (left right : Table) :
    context.tablePath left = context.tablePath right ↔
      context.schemaOf left = context.schemaOf right ∧
        left.name = right.name := by
  rw [tablePath_eq, tablePath_eq, Path.mk.injEq]
  cases context.schemaOf left <;> cases context.schemaOf right <;> simp

/-- Only tables without a schema can be addressed like an alias. -/
theorem tablePath_eq_alias_iff (context : Context) (table : Table)
    {ref : AliasRef} {name : String}
    (written : context.nameOfRef ref = .ok name) :
    context.tablePath table = ⟨[name]⟩ ↔
      context.schemaOf table = none ∧
        context.nameOfRef ref = .ok table.name := by
  rw [tablePath_eq, Path.mk.injEq, written, Except.ok.injEq]
  cases context.schemaOf table with
  | none => simp [eq_comm]
  | some schema => simp

end Context

namespace Source

/-- What the columns of a source are qualified by. -/
def qualifier (context : Context) : Source → Except QueryError Path
  | table declared => .ok (context.tablePath declared)
  | aliased renamed =>
      (context.nameOfRef renamed.ref).map fun name => ⟨[name]⟩

/-- The sources cannot be told apart by what qualifies their columns. -/
def Clashes (context : Context) : Source → Source → Prop
  | table left, table right =>
      context.schemaOf left = context.schemaOf right ∧ left.name = right.name
  | aliased left, aliased right => left.ref.id = right.ref.id
  | table declared, aliased renamed | aliased renamed, table declared =>
      context.schemaOf declared = none ∧
        context.nameOfRef renamed.ref = .ok declared.name

end Source

/-! ## Sources of a chain -/

mutual

theorem Chain.mem_aliases_of_mem_sources {renamed : Alias} : (chain : Chain) →
    .aliased renamed ∈ chain.sources → renamed ∈ chain.aliases
  | .source source, member => by
      rw [Chain.sources, List.mem_singleton] at member
      rw [Chain.aliases, ← member, Source.aliases]
      exact List.mem_cons_self
  | .join join, member => by
      rw [Chain.sources] at member
      rw [Chain.aliases]
      exact Join.mem_aliases_of_mem_sources join member

theorem Join.mem_aliases_of_mem_sources {renamed : Alias} : (join : Join) →
    .aliased renamed ∈ join.sources → renamed ∈ join.aliases
  | ⟨left, kind, right, predicate⟩, member => by
      rw [Join.sources, List.mem_append, List.mem_singleton] at member
      rw [Join.aliases, List.mem_append]
      rcases member with earlier | last
      · exact .inl (Chain.mem_aliases_of_mem_sources left earlier)
      · rw [← last, Source.aliases]
        exact .inr List.mem_cons_self

end

namespace Select

variable {context : Context} {select : Select} {chain : Chain}

theorem ref_mem_refs (target : select.chain? = some chain) {renamed : Alias}
    (member : .aliased renamed ∈ chain.sources) :
    renamed.ref ∈ select.refs := by
  rw [refs, aliases_of_target target, List.map_append]
  exact List.mem_append_right _
    (List.mem_map_of_mem (chain.mem_aliases_of_mem_sources member))

/-- Two aliases of a statement share a name only if they are the same one. -/
theorem name_eq_iff (coherent : AliasRef.Coherent select.refs)
    (succeeded : (select.registration context).failure = none)
    {left right : AliasRef} (leftMember : left ∈ select.refs)
    (rightMember : right ∈ select.refs) :
    ∃ name name', (select.scope context).nameOfRef left = .ok name ∧
      (select.scope context).nameOfRef right = .ok name' ∧
      (name = name' ↔ left.id = right.id) := by
  obtain ⟨name, written, held⟩ :=
    nameOfRef_scope coherent succeeded leftMember
  obtain ⟨name', written', held'⟩ :=
    nameOfRef_scope coherent succeeded rightMember
  have distinct := names_distinct context select
  refine ⟨name, name', written, written', ?_, ?_⟩
  · intro equal
    rw [equal] at held
    exact distinct.id_eq held held'
  · intro equal
    rw [equal] at held
    exact distinct.name_eq held held'

/-- A source of a statement is qualified by a path of its own, unless it is the
same alias, a table of the same name in the same schema, or a table without
schema that is called like the alias. -/
theorem qualifier_eq_iff (completes : (select.script context).Completes)
    (target : select.chain? = some chain)
    (coherent : AliasRef.Coherent select.refs) (position other : Nat)
    {first second : Source} (firstHeld : chain.sources[position]? = some first)
    (secondHeld : chain.sources[other]? = some second) :
    ∃ path path', first.qualifier (select.scope context) = .ok path ∧
      second.qualifier (select.scope context) = .ok path' ∧
      (path = path' ↔ first.Clashes (select.scope context) second) := by
  obtain ⟨_, admitted⟩ := admitted_of_completes completes
  have succeeded := admitted.registered
  have firstMember := List.mem_of_getElem? firstHeld
  have secondMember := List.mem_of_getElem? secondHeld
  cases first with
  | table left =>
      cases second with
      | table right =>
          exact ⟨_, _, rfl, rfl, Context.tablePath_eq_iff _ left right⟩
      | aliased right =>
          obtain ⟨name, written, _⟩ := nameOfRef_scope coherent succeeded
            (ref_mem_refs target secondMember)
          rw [Source.qualifier, Source.qualifier, written]
          exact ⟨_, _, rfl, rfl,
            Context.tablePath_eq_alias_iff _ left written⟩
  | aliased left =>
      have leftMember := ref_mem_refs target firstMember
      cases second with
      | table right =>
          obtain ⟨name, written, _⟩ :=
            nameOfRef_scope coherent succeeded leftMember
          rw [Source.qualifier, Source.qualifier, written]
          refine ⟨_, _, rfl, rfl, ?_⟩
          rw [eq_comm]
          exact Context.tablePath_eq_alias_iff _ right written
      | aliased right =>
          obtain ⟨name, name', written, written', same⟩ := name_eq_iff coherent
            succeeded leftMember (ref_mem_refs target secondMember)
          rw [Source.qualifier, Source.qualifier, written, written']
          refine ⟨_, _, rfl, rfl, ?_⟩
          rw [Source.Clashes, ← same]
          simp

/-- All columns of two sources. -/
def crossed (left right : Source) : Select :=
  ⟨[], some (.join ⟨.source left, .cross, right, none⟩), Expr.ofBool true, [],
    none, none, false, false⟩

end Select

/-- A table without columns and schema. -/
def Source.plain (name : String) : Source := .table ⟨⟨1⟩, none, name, []⟩

/-- An alias of a table. -/
def Source.copy (id : Nat) (name : Option String) : Source :=
  .aliased ⟨⟨⟨id⟩, name⟩, .table ⟨⟨1⟩, none, "person", []⟩⟩

namespace Select

theorem qualifier_eq_iff_crossed :
    ∃ path path',
      (Source.plain "person").qualifier
        ((crossed (.plain "person") (.copy 1 none)).scope
          (.outermost .generic none)) = .ok path ∧
      (Source.copy 1 none).qualifier
        ((crossed (.plain "person") (.copy 1 none)).scope
          (.outermost .generic none)) = .ok path' ∧
      path ≠ path' := by
  have completes : ((crossed (.plain "person") (.copy 1 none)).script
      (.outermost .generic none)).Completes := rfl
  have coherent : AliasRef.Coherent
      (crossed (.plain "person") (.copy 1 none)).refs := by decide
  obtain ⟨path, path', qualified, qualified', same⟩ :=
    qualifier_eq_iff completes rfl coherent 0 1 rfl rfl
  refine ⟨path, path', qualified, qualified', ?_⟩
  intro equal
  exact absurd (same.mp equal).2 (by decide)

/-- Two sources share a qualifier in a statement that is written to its end. -/
def Shared (left right : Source) : Prop :=
  ((crossed left right).script (.outermost .generic none)).Completes ∧
    ∃ path,
      left.qualifier
        ((crossed left right).scope (.outermost .generic none)) = .ok path ∧
      right.qualifier
        ((crossed left right).scope (.outermost .generic none)) = .ok path

/-- So do a table and itself, an alias and itself, and a table and an alias with
a generated name that the table is called. -/
theorem exists_shared :
    Shared (.plain "person") (.plain "person") ∧
      Shared (.copy 1 none) (.copy 1 none) ∧
        Shared (.plain "t1") (.copy 1 none) :=
  ⟨⟨rfl, _, rfl, rfl⟩, ⟨rfl, _, rfl, rfl⟩, ⟨rfl, _, rfl, rfl⟩⟩

end Select

end SqlWeave
