import SqlWeave.Proofs.Alias.Registry
import SqlWeave.Proofs.Script.Scope

/-!
# Names in nested scopes

How the names of a statement depend on its aliases and on the statements around
it.  The names are those of the registry, started with the names of all
enclosing scopes reserved; so an alias goes by its own name, or by one that no
enclosing scope uses.
-/

namespace SqlWeave

namespace AliasRef

theorem Coherent.mono {refs more : List AliasRef} (coherent : Coherent more)
    (subset : refs ⊆ more) : Coherent refs :=
  fun first held second held' =>
    coherent first (subset held) second (subset held')

end AliasRef

namespace Context

/-- The context of the clauses of a statement within other statements, innermost
first. -/
def within (outer : Context) : List Select → Context
  | [] => outer
  | select :: rest => select.scope (outer.within rest)

/-- Each of the statements registers its aliases without a failure. -/
def Opens (outer : Context) : List Select → Prop
  | [] => True
  | select :: rest =>
      outer.Opens rest ∧ (select.registration (outer.within rest)).failure = none

theorem bareColumns_within (outer : Context) (enclosing : List Select) :
    (outer.within enclosing).bareColumns = outer.bareColumns := by
  induction enclosing with
  | nil => rfl
  | cons select rest ih => exact ih

theorem within_withBareColumns (outer : Context) (enclosing : List Select) :
    outer.withBareColumns.within enclosing =
      (outer.within enclosing).withBareColumns := by
  induction enclosing with
  | nil => rfl
  | cons select rest ih =>
      rw [within, ih]
      rfl

/-- The names of all enclosing scopes. -/
def visibleNames (context : Context) : List String :=
  context.scopes.flatMap AliasNames.assignedNames

/-- The alias that a name reaches, from the innermost scope outwards. -/
def idOf? (context : Context) (name : String) : Option AliasId :=
  context.scopes.findSome? fun names => names.idOf? name

theorem idOf?_enter (context : Context) (names : AliasNames) (name : String) :
    (context.enter names).idOf? name =
      (names.idOf? name).or (context.idOf? name) := by
  show (names :: context.scopes).findSome? _ = _
  rw [List.findSome?_cons]
  cases names.idOf? name <;> rfl

theorem nameOf_enter_of_some (context : Context) {names : AliasNames}
    {id : AliasId} {name : String} (found : names.nameOf? id = some name) :
    (context.enter names).nameOf id = .ok name := by
  rw [nameOf, enter, List.findSome?_cons, found]

theorem nameOf_enter_of_none (context : Context) {names : AliasNames}
    {id : AliasId} (absent : names.nameOf? id = none) :
    (context.enter names).nameOf id = context.nameOf id := by
  rw [nameOf, enter, List.findSome?_cons, absent]
  rfl

end Context

namespace Select

/-- The aliases that the statement registers, as fields refer to them. -/
def refs (select : Select) : List AliasRef := select.aliases.map Alias.ref

/-- The names that the statement gives to its aliases. -/
def names (context : Context) (select : Select) : AliasNames :=
  (select.registration context).names

variable {context : Context} {select : Select} {ref : AliasRef}

theorem names_distinct (context : Context) (select : Select) :
    (select.names context).Distinct :=
  (AliasNames.distinct_reserving _).registerAll _

/-- Every name of the scope belongs to an alias of the statement; it is the
alias's own or is used by no enclosing scope. -/
theorem origin_of_mem_names {entry : AliasId × String}
    (member : entry ∈ (select.names context).assigned) :
    AliasNames.Origin select.refs context.visibleNames entry := by
  rcases AliasNames.origin_of_registerAll member with nothing | origin
  · cases nothing
  · exact origin

theorem id_mem_refs_of_mem_names {entry : AliasId × String}
    (member : entry ∈ (select.names context).assigned) :
    entry.1 ∈ select.refs.map AliasRef.id := by
  obtain ⟨source, among, same, _⟩ := origin_of_mem_names member
  rw [← same]
  exact List.mem_map_of_mem among

/-- An alias with a name of its own goes by that name. -/
theorem name_eq_of_mem_names (coherent : AliasRef.Coherent select.refs)
    (among : ref ∈ select.refs) {own name : String} (named : ref.name = some own)
    (member : (ref.id, name) ∈ (select.names context).assigned) :
    name = own := by
  obtain ⟨source, held, same, origin⟩ := origin_of_mem_names member
  rw [coherent source held ref among same, named] at origin
  rcases origin with equal | ⟨unnamed, _⟩
  · exact (Option.some.inj equal).symm
  · cases unnamed

/-- Every alias of a statement has a name in its scope. -/
theorem nameOfRef_scope (coherent : AliasRef.Coherent select.refs)
    (succeeded : (select.registration context).failure = none)
    (among : ref ∈ select.refs) :
    ∃ name, (select.scope context).nameOfRef ref = .ok name ∧
      (ref.id, name) ∈ (select.names context).assigned := by
  obtain ⟨name, member⟩ :=
    AliasNames.registered_of_registerAll succeeded among
  refine ⟨name, ?_, member⟩
  rw [Context.nameOfRef]
  cases named : ref.name with
  | some own => rw [name_eq_of_mem_names coherent among named member]
  | none =>
      apply Context.nameOf_enter_of_some
      exact (names_distinct context select).nameOf?_eq_some_iff.mpr member

/-- An alias that a statement does not register is named as outside. -/
theorem nameOfRef_scope_of_not_mem
    (foreign : ref.id ∉ select.refs.map AliasRef.id) :
    (select.scope context).nameOfRef ref = context.nameOfRef ref := by
  rw [Context.nameOfRef, Context.nameOfRef]
  cases ref.name with
  | some own => rfl
  | none =>
      apply Context.nameOf_enter_of_none
      rw [AliasNames.nameOf?_eq_none_iff]
      intro held
      obtain ⟨entry, member, equal⟩ := List.mem_map.mp held
      rw [← equal] at foreign
      exact foreign (id_mem_refs_of_mem_names member)

end Select

end SqlWeave
