import SqlWeave.Proofs.Renumbering.Syntax

/-!
# Names of renumbered aliases

Scopes that hold the same names for the same aliases, once these are
renumbered.  Scopes are compared as tables: neither the order of their entries
nor that of the reserved names counts.  Registering the same aliases keeps such
scopes alike, because a generated name depends on nothing but the set of names
that are taken, and so does everything that a context is asked for
(`Context.Renumbers`).
-/

namespace SqlWeave

variable {number : AliasId → AliasId}

namespace AliasNames

/-- The second scope has the names of the first one for the renumbered aliases,
in any order. -/
structure Renumbers (number : AliasId → AliasId) (names names' : AliasNames) :
    Prop where
  distinct : names.Distinct
  entries : names'.assigned.Perm
    (names.assigned.map fun entry => (number entry.1, entry.2))
  reserved : ∀ name, name ∈ names'.reserved ↔ name ∈ names.reserved

namespace Renumbers

variable {names names' : AliasNames}

theorem reserving {reserved reserved' : List String}
    (same : ∀ name, name ∈ reserved' ↔ name ∈ reserved) :
    Renumbers number (.reserving reserved) (.reserving reserved') where
  distinct := distinct_reserving reserved
  entries := .nil
  reserved := same

theorem assignedNames_perm (renumbers : Renumbers number names names') :
    names'.assignedNames.Perm names.assignedNames := by
  have all := renumbers.entries.map Prod.snd
  rw [List.map_map] at all
  exact all

theorem mem_assignedNames (renumbers : Renumbers number names names')
    (name : String) :
    name ∈ names'.assignedNames ↔ name ∈ names.assignedNames :=
  renumbers.assignedNames_perm.mem_iff

/-- The same names are free. -/
theorem freeName_eq (renumbers : Renumbers number names names') :
    names'.freeName = names.freeName := by
  refine IsLowestFree.unique (fun name => ?_) names.freeName_isLowestFree
    names'.freeName_isLowestFree
  rw [taken, taken, List.mem_append, List.mem_append,
    renumbers.mem_assignedNames, renumbers.reserved]

theorem nameFor_eq (renumbers : Renumbers number names names')
    (ref : AliasRef) :
    names'.nameFor (ref.renumber number) = names.nameFor ref := by
  rw [nameFor, nameFor, renumbers.freeName_eq]
  rfl

theorem assign (renumbers : Renumbers number names names') {ref : AliasRef}
    (fresh : names.nameOf? ref.id = none)
    (free : names.nameFor ref ∉ names.assignedNames) :
    Renumbers number (names.assign ref)
      (names'.assign (ref.renumber number)) where
  distinct := renumbers.distinct.assign fresh free
  entries := by
    rw [AliasNames.assign, AliasNames.assign, List.map_append,
      renumbers.nameFor_eq]
    exact renumbers.entries.append_right _
  reserved := renumbers.reserved

variable (injective : Function.Injective number)
include injective

theorem distinct_renumbered (renumbers : Renumbers number names names') :
    names'.Distinct := by
  constructor
  · have ids := renumbers.entries.map Prod.fst
    rw [List.map_map] at ids
    rw [ids.nodup_iff]
    have renumbered := renumbers.distinct.ids.map injective
    rw [List.map_map] at renumbered
    exact renumbered
  · rw [renumbers.assignedNames_perm.nodup_iff]
    exact renumbers.distinct.names

/-- An alias goes by the same name under both numbers. -/
theorem nameOf?_eq (renumbers : Renumbers number names names')
    (id : AliasId) : names'.nameOf? (number id) = names.nameOf? id := by
  apply Option.ext
  intro name
  rw [(renumbers.distinct_renumbered injective).nameOf?_eq_some_iff,
    renumbers.distinct.nameOf?_eq_some_iff, renumbers.entries.mem_iff,
    List.mem_map]
  constructor
  · rintro ⟨entry, member, equal⟩
    obtain ⟨same, rfl⟩ := Prod.mk.inj equal
    rw [← injective same]
    exact member
  · intro member
    exact ⟨_, member, rfl⟩

/-! ## Registration -/

/-- Registering an alias has the same outcome under both numbers. -/
theorem register (renumbers : Renumbers number names names')
    (ref : AliasRef) :
    (names'.register (ref.renumber number)).failure =
        (names.register ref).failure ∧
      Renumbers number (names.register ref).names
        (names'.register (ref.renumber number)).names := by
  have found : names'.nameOf? (ref.renumber number).id =
      names.nameOf? ref.id := renumbers.nameOf?_eq injective ref.id
  have own := renumbers.nameFor_eq ref
  have taken := renumbers.mem_assignedNames (names.nameFor ref)
  rcases names'.register_cases (ref.renumber number) with
    ⟨name, known, step'⟩ | ⟨fresh, held, step'⟩ | ⟨fresh, free, step'⟩
  · rw [found] at known
    rcases names.register_cases ref with
      ⟨_, _, step⟩ | ⟨fresh, _, _⟩ | ⟨fresh, _, _⟩
    · rw [step, step']
      exact ⟨rfl, renumbers⟩
    all_goals
      rw [known] at fresh
      cases fresh
  · rw [found] at fresh
    rw [own, taken] at held
    rcases names.register_cases ref with
      ⟨name, known, _⟩ | ⟨_, _, step⟩ | ⟨_, free, _⟩
    · rw [fresh] at known
      cases known
    · rw [step, step', own]
      exact ⟨rfl, renumbers⟩
    · exact absurd held free
  · rw [found] at fresh
    rw [own, taken] at free
    rcases names.register_cases ref with
      ⟨name, known, _⟩ | ⟨_, held, _⟩ | ⟨_, _, step⟩
    · rw [fresh] at known
      cases known
    · exact absurd held free
    · rw [step, step']
      exact ⟨rfl, renumbers.assign fresh free⟩

/-- So has registering several aliases. -/
theorem registerAll (renumbers : Renumbers number names names')
    (refs : List AliasRef) :
    (names'.registerAll (refs.map (AliasRef.renumber number))).failure =
        (names.registerAll refs).failure ∧
      Renumbers number (names.registerAll refs).names
        (names'.registerAll (refs.map (AliasRef.renumber number))).names := by
  induction refs generalizing names names' with
  | nil => exact ⟨rfl, renumbers⟩
  | cons ref rest ih =>
      obtain ⟨same, next⟩ := renumbers.register injective ref
      rw [List.map_cons, AliasNames.registerAll, AliasNames.registerAll, same]
      cases failed : (names.register ref).failure with
      | some error =>
          rw [failed] at same
          exact ⟨same.trans failed.symm, next⟩
      | none => exact ih next

end Renumbers

end AliasNames

/-! ## Contexts -/

namespace Context

/-- Different aliases have different numbers, the second context has the names
of the first one for the renumbered aliases, scope by scope, and in all other
things the contexts agree. -/
structure Renumbers (number : AliasId → AliasId) (context context' : Context) :
    Prop where
  injective : Function.Injective number
  dialect : context'.dialect = context.dialect
  schema : context'.defaultSchema = context.defaultSchema
  bareColumns : context'.bareColumns = context.bareColumns
  scopes : List.Forall₂ (AliasNames.Renumbers number) context.scopes
    context'.scopes

namespace Renumbers

variable {context context' : Context}

/-- Without names there is nothing to renumber. -/
theorem of_scopes_eq_nil (injective : Function.Injective number)
    (nameless : context.scopes = []) : Renumbers number context context where
  injective := injective
  dialect := rfl
  schema := rfl
  bareColumns := rfl
  scopes := by
    rw [nameless]
    exact .nil

theorem enter (renumbers : Renumbers number context context')
    {names names' : AliasNames}
    (inner : AliasNames.Renumbers number names names') :
    Renumbers number (context.enter names) (context'.enter names') :=
  { renumbers with scopes := .cons inner renumbers.scopes }

theorem withBareColumns (renumbers : Renumbers number context context') :
    Renumbers number context.withBareColumns context'.withBareColumns :=
  { renumbers with bareColumns := rfl }

/-- The same names are visible. -/
theorem mem_visibleNames (renumbers : Renumbers number context context')
    (name : String) :
    name ∈ context'.visibleNames ↔ name ∈ context.visibleNames := by
  have scopes := renumbers.scopes
  rw [visibleNames, visibleNames]
  generalize context.scopes = outer, context'.scopes = outer' at scopes ⊢
  induction scopes with
  | nil => exact Iff.rfl
  | cons head _ ih =>
      rw [List.flatMap_cons, List.flatMap_cons, List.mem_append,
        List.mem_append]
      exact or_congr (head.mem_assignedNames name) ih

theorem innerNames (renumbers : Renumbers number context context') :
    AliasNames.Renumbers number context.innerNames context'.innerNames :=
  .reserving renumbers.mem_visibleNames

theorem tablePath_eq (renumbers : Renumbers number context context')
    (table : Table) : context'.tablePath table = context.tablePath table := by
  rw [tablePath, tablePath, renumbers.schema]

theorem findSome?_nameOf?_eq (renumbers : Renumbers number context context')
    (id : AliasId) :
    (context'.scopes.findSome? fun names => names.nameOf? (number id)) =
      context.scopes.findSome? fun names => names.nameOf? id := by
  have scopes := renumbers.scopes
  generalize context.scopes = outer, context'.scopes = outer' at scopes ⊢
  induction scopes with
  | nil => rfl
  | cons head _ ih =>
      rw [List.findSome?_cons, List.findSome?_cons,
        head.nameOf?_eq renumbers.injective, ih]

/-- References are resolved to the same names. -/
theorem nameOfRef_eq_ok_iff (renumbers : Renumbers number context context')
    (ref : AliasRef) (name : String) :
    context'.nameOfRef (ref.renumber number) = .ok name ↔
      context.nameOfRef ref = .ok name := by
  obtain ⟨id, own⟩ := ref
  cases own with
  | some own => exact Iff.rfl
  | none =>
      show context'.nameOf (number id) = .ok name ↔
        context.nameOf id = .ok name
      rw [nameOf, nameOf, renumbers.findSome?_nameOf?_eq]
      cases context.scopes.findSome? fun names => names.nameOf? id <;> simp

/-- Columns are qualified in the same way. -/
theorem fieldPath_eq_ok_iff (renumbers : Renumbers number context context')
    (field : Field) (path : Path) :
    context'.fieldPath (field.renumber number) = .ok path ↔
      context.fieldPath field = .ok path := by
  cases bound : field.binding with
  | none =>
      rw [fieldPath, fieldPath, Field.renumber, bound]
      show Except.ok _ = _ ↔ Except.ok _ = _
      rw [renumbers.tablePath_eq]
      rfl
  | some ref =>
      have renumbered : (field.renumber number).binding =
          some (ref.renumber number) := by
        rw [Field.renumber, bound]
        rfl
      rw [fieldPath_eq_ok_iff_of_bound _ renumbered,
        fieldPath_eq_ok_iff_of_bound _ bound]
      simp only [renumbers.nameOfRef_eq_ok_iff]
      rfl

end Renumbers

end Context

end SqlWeave
