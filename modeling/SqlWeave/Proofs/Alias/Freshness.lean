import SqlWeave.Proofs.Alias.Qualifiers
import SqlWeave.Proofs.Script.Compiled
import SqlWeave.Proofs.Script.Placement

/-!
# Fresh names

An alias without a name gets one when its statement registers it: the first of
`t1`, `t2`, … that neither this statement has assigned so far nor a statement
around it has assigned at all.  Names that are assigned later cannot meet it
any more, since the statement would fail, so in every statement that compiles a
generated name is the name of one alias only (`Database.exists_named_of_unnamed`).
-/

namespace SqlWeave

namespace Select

/-- The names that statements within one another have assigned, the innermost
statement first. -/
def namesAround (outer : Context) : List Select → List String
  | [] => []
  | select :: rest =>
      (select.names (outer.within rest)).assignedNames ++ namesAround outer rest

/-- The name that an alias without a name gets, as the statement registers it
after the aliases `before`. -/
structure Named (outer : Context) (enclosing : List Select) (select : Select)
    (before : List AliasRef) (ref : AliasRef) (name : String) : Prop where
  /-- It is the first name that is assigned neither here nor around. -/
  lowest : AliasNames.IsLowestFree
    (((outer.within enclosing).innerNames.registerAll before).names.assignedNames
      ++ namesAround outer enclosing) name
  registered : (ref.id, name) ∈ (select.names (outer.within enclosing)).assigned
  /-- It is written wherever the statement refers to the alias. -/
  written : (select.scope (outer.within enclosing)).nameOfRef ref = .ok name
  /-- All other aliases of the statement have other names in the end. -/
  apart : ∀ entry ∈ (select.names (outer.within enclosing)).assigned,
    entry.1 ≠ ref.id → entry.2 ≠ name
  around : name ∉ namesAround outer enclosing

end Select

variable {outer context : Context} {enclosing : List Select} {select : Select}
variable {before after : List AliasRef} {ref : AliasRef}

theorem Context.visibleNames_within (outer : Context)
    (enclosing : List Select) :
    (outer.within enclosing).visibleNames =
      Select.namesAround outer enclosing ++ outer.visibleNames := by
  induction enclosing with
  | nil => rfl
  | cons select rest ih =>
      rw [Select.namesAround, List.append_assoc, ← ih]
      rfl

/-- What cannot be generated any more after some aliases of a statement. -/
theorem Context.taken_registerAll_innerNames (context : Context)
    (refs : List AliasRef) :
    (context.innerNames.registerAll refs).names.taken =
      (context.innerNames.registerAll refs).names.assignedNames ++
        context.visibleNames := by
  rw [AliasNames.taken, AliasNames.reserved_registerAll]
  rfl

/-- Only aliases that were registered have names. -/
theorem Context.nameOf?_registerAll_innerNames (context : Context)
    {refs : List AliasRef} {id : AliasId}
    (foreign : id ∉ refs.map AliasRef.id) :
    (context.innerNames.registerAll refs).names.nameOf? id = none := by
  rw [AliasNames.nameOf?_eq_none_iff]
  intro held
  obtain ⟨entry, member, rfl⟩ := List.mem_map.mp held
  rcases AliasNames.origin_of_registerAll member with nothing | origin
  · cases nothing
  · obtain ⟨source, among, same, _⟩ := origin
    rw [← same] at foreign
    exact foreign (List.mem_map_of_mem among)

/-- The name of an alias without a name is free when its turn comes. -/
theorem Select.mem_names_of_unnamed
    (succeeded : (select.registration context).failure = none)
    (order : select.refs = before ++ ref :: after) (unnamed : ref.name = none)
    (first : ref.id ∉ before.map AliasRef.id) :
    (ref.id, (context.innerNames.registerAll before).names.freeName) ∈
      (select.names context).assigned := by
  have registered :
      (context.innerNames.registerAll (before ++ ref :: after)).failure =
        none := by
    rw [← order]
    exact succeeded
  obtain ⟨continued, names⟩ :=
    AliasNames.registerAll_append_of_success registered
  have held := AliasNames.mem_registerAll_of_unnamed continued unnamed
    (context.nameOf?_registerAll_innerNames first)
  rw [← names, ← order] at held
  exact held

/-- Every alias of a statement has one name. -/
theorem Select.existsUnique_name
    (succeeded : (select.registration context).failure = none)
    (member : ref ∈ select.refs) :
    ∃! name, (ref.id, name) ∈ (select.names context).assigned := by
  obtain ⟨name, held⟩ := AliasNames.registered_of_registerAll succeeded member
  exact ⟨name, held,
    fun _ other => (names_distinct context select).name_eq other held⟩

theorem Select.named_of_unnamed (scopes : outer.scopes = [])
    (succeeded :
      (select.registration (outer.within enclosing)).failure = none)
    (order : select.refs = before ++ ref :: after) (unnamed : ref.name = none)
    (first : ref.id ∉ before.map AliasRef.id) :
    Named outer enclosing select before ref
      ((outer.within enclosing).innerNames.registerAll before).names.freeName := by
  have held := mem_names_of_unnamed succeeded order unnamed first
  have distinct := names_distinct (outer.within enclosing) select
  have outermost : outer.visibleNames = [] := by
    rw [Context.visibleNames, scopes]
    rfl
  have lowest := AliasNames.freeName_isLowestFree
    ((outer.within enclosing).innerNames.registerAll before).names
  rw [Context.taken_registerAll_innerNames, Context.visibleNames_within,
    outermost, List.append_nil] at lowest
  refine ⟨lowest, held, ?_, ?_, ?_⟩
  · rw [Context.nameOfRef, unnamed]
    exact Context.nameOf_enter_of_some _ (distinct.nameOf?_eq_some_iff.mpr held)
  · intro entry member other same
    rw [← same] at held
    exact other (distinct.id_eq member held)
  · obtain ⟨_, _, _, free, _⟩ := lowest
    exact fun around => free (List.mem_append_right _ around)

/-- Every `SELECT` in a compiled statement gives each of its aliases one name,
and the name of an alias without a name is the first one that is free there. -/
theorem Database.exists_named_of_unnamed (database : Database) (statement : Operand)
    {compiled : Statement}
    (succeeded : (database.compile statement.node).result = .ok compiled)
    {bare : Bool}
    (member : ⟨.select select, enclosing, bare⟩ ∈ statement.parts) :
    (∀ ref ∈ select.refs, ∃! name, (ref.id, name) ∈
      (select.names (database.context.within enclosing)).assigned) ∧
    ∀ before ref after, select.refs = before ++ ref :: after →
      ref.name = none → ref.id ∉ before.map AliasRef.id →
      ∃ name,
        Select.Named database.context enclosing select before ref name := by
  obtain ⟨completes, rfl⟩ := (database.compile_eq_ok_iff _ _).mp succeeded
  have holds : (statement.node.script database.context).Holds database.context
      statement.parts := by
    cases statement with
    | select query => exact Select.holds (Context.inOrdering_false _) [] query
    | compound query => exact Compound.holds database.context query
  have registered : (select.registration
      (database.context.within enclosing)).failure = none := by
    have stands := holds completes select enclosing bare member
    cases bare with
    | false => exact stands.registered
    | true =>
        have same := stands.registered
        rw [Context.inOrdering_true, Context.within_withBareColumns] at same
        exact same
  constructor
  · intro ref among
    exact Select.existsUnique_name registered among
  · intro before ref after order unnamed first
    exact ⟨_, Select.named_of_unnamed rfl registered order unnamed first⟩

/-- Two copies of a table, one of which was given the name `t3`, filtered by
another statement. -/
def Select.crossedAround (inner : Select) : Select :=
  { crossed (.copy 1 none) (.copy 2 (some "t3")) with
    filter := .binary .eq (.value (.int 1)) (.query inner) }

/-- Two further copies, one of which was given the name `t2`. -/
def Select.crossedWithin : Select := crossed (.copy 3 (some "t2")) (.copy 4 none)

/-- The outer statement assigns `t1` and `t3` and the inner one `t2`, so `t4` is
generated for the last copy. -/
theorem Database.exists_named_of_unnamed_crossed :
    ∃ compiled name,
      (compile ⟨.generic, none⟩ (Operand.select
          (.crossedAround .crossedWithin)).node).result = .ok compiled ∧
        Select.Named (Database.context ⟨.generic, none⟩)
          [.crossedAround .crossedWithin] .crossedWithin [⟨⟨3⟩, some "t2"⟩]
          ⟨⟨4⟩, none⟩ name ∧
        name = "t4" := by
  have member : ⟨.select .crossedWithin, [.crossedAround .crossedWithin], false⟩
      ∈ (Operand.select (.crossedAround .crossedWithin)).parts := by
    rw [Operand.parts, Select.parts_eq]
    refine List.mem_cons_of_mem _ (List.mem_append_left _ ?_)
    exact List.mem_append_right _
      (List.mem_append_right _ List.mem_cons_self)
  obtain ⟨_, fresh⟩ :=
    exists_named_of_unnamed ⟨.generic, none⟩ _ rfl member
  obtain ⟨name, named⟩ :=
    fresh [⟨⟨3⟩, some "t2"⟩] ⟨⟨4⟩, none⟩ [] rfl rfl (by decide)
  refine ⟨_, name, rfl, named, ?_⟩
  cases named.written
  rfl

end SqlWeave
