import Mathlib.Data.Nat.Find
import Std.Data.HashMap
import Std.Data.HashSet
import SqlWeave.Proofs.Alias.Registry
import SqlWeave.Query.Source

/-!
# Names in two tables

The names of a scope can also be kept in two tables: one leads from names to
aliases and tells whether a name is held, the other from aliases to names and
tells whether an alias is registered.  Both are changed in place, and a call
that is refused must not have changed either of them.

After any sequence of calls, failing ones among them, the tables show the names
as they are listed in a scope (`AliasTables.Follow`), so they are inverse to
each other (`AliasTables.Follow.inverse`).
-/

namespace SqlWeave

deriving instance Hashable for AliasId

/-- A call that changes the names of a scope. -/
inductive AliasNames.Call where
  | register (ref : AliasRef)
  /-- Register aliases, each with those inside the chain that it renames. -/
  | registerAll (aliases : List Alias)
  /-- Forget all names, also the reserved ones. -/
  | clear

namespace AliasNames

/-- The names after a call, whether or not it fails. -/
def after (names : AliasNames) : Call → AliasNames
  | .register ref => (names.register ref).names
  | .registerAll aliases =>
      (names.registerAll ((Alias.withNested aliases).map Alias.ref)).names
  | .clear => empty

/-- The names after calls, one after the other. -/
def afterAll (names : AliasNames) (calls : List Call) : AliasNames :=
  calls.foldl after names

variable {names : AliasNames} {ref : AliasRef}

theorem Distinct.afterAll (distinct : names.Distinct) (calls : List Call) :
    (names.afterAll calls).Distinct := by
  induction calls generalizing names with
  | nil => exact distinct
  | cons call rest ih =>
      apply ih
      cases call with
      | register ref => exact distinct.register ref
      | registerAll aliases => exact distinct.registerAll _
      | clear => exact distinct_reserving []

/-! ## Look-up after a registration -/

/-- Only the new alias is looked up otherwise than before. -/
theorem nameOf?_assign (fresh : names.nameOf? ref.id = none) (id : AliasId) :
    (names.assign ref).nameOf? id =
      if ref.id = id then some (names.nameFor ref) else names.nameOf? id := by
  rw [nameOf?, assign, List.lookup_append]
  split
  · next same =>
      subst same
      rw [show names.assigned.lookup ref.id = none from fresh]
      exact List.lookup_cons_self
  · next other =>
      have differs : (id == ref.id) = false :=
        beq_eq_false_iff_ne.mpr (Ne.symm other)
      rw [List.lookup_cons, differs, nameOf?]
      exact Option.or_none

/-- Only the new name is looked up otherwise than before. -/
theorem idOf?_assign (free : names.nameFor ref ∉ names.assignedNames)
    (name : String) :
    (names.assign ref).idOf? name =
      if names.nameFor ref = name then some ref.id else names.idOf? name := by
  have unheld := idOf?_eq_none_iff.mpr free
  rw [idOf?, Option.map_eq_none_iff] at unheld
  rw [idOf?, assign, List.find?_append]
  split
  · next same =>
      subst same
      rw [unheld]
      simp
  · next other => simp [other, idOf?]

end AliasNames

/-! ## Tables -/

/-- The names of one scope in two tables. -/
structure AliasTables where
  /-- The alias that goes by a name. -/
  ids : Std.HashMap String AliasId
  /-- The name that an alias goes by. -/
  names : Std.HashMap AliasId String
  /-- Names that must not be generated. -/
  reserved : Std.HashSet String

namespace AliasTables

/-- Tables without entries, for a scope that generates none of the names. -/
def reserving (names : List String) : AliasTables :=
  ⟨∅, ∅, Std.HashSet.ofList names⟩

/-- Whether the generated name with this number can be given. -/
def IsFree (tables : AliasTables) (number : Nat) : Prop :=
  AliasNames.generated number ∉ tables.ids ∧
    AliasNames.generated number ∉ tables.reserved

instance (tables : AliasTables) : DecidablePred tables.IsFree :=
  fun _ => inferInstanceAs (Decidable (_ ∧ _))

/-- The names that cannot be generated any more. -/
def taken (tables : AliasTables) : List String :=
  tables.ids.keys ++ tables.reserved.toList

theorem isFree_iff {tables : AliasTables} {number : Nat} :
    tables.IsFree number ↔ AliasNames.generated number ∉ tables.taken := by
  simp [IsFree, taken]

theorem exists_isFree (tables : AliasTables) :
    ∃ number, 1 ≤ number ∧ tables.IsFree number := by
  obtain ⟨number, least, _, free⟩ :=
    AliasNames.exists_generated_not_mem tables.taken 1
  exact ⟨number, least, isFree_iff.mpr free⟩

/-- The first generated name that is neither held nor reserved.  The search is
not bounded; it ends because the tables are finite. -/
def freeName (tables : AliasTables) : String :=
  AliasNames.generated (Nat.find tables.exists_isFree)

/-- Enter an alias under a name, in both tables. -/
def enter (tables : AliasTables) (id : AliasId) (name : String) : AliasTables :=
  { tables with
    ids := tables.ids.insert name id
    names := tables.names.insert id name }

/-- Register an alias, unless it is registered already, and answer with its
name. -/
def register (tables : AliasTables) (ref : AliasRef) :
    Except QueryError String × AliasTables :=
  match tables.names[ref.id]? with
  | some name => (.ok name, tables)
  | none =>
      let name := ref.name.getD tables.freeName
      if name ∈ tables.ids then (.error (.duplicateAlias name), tables)
      else (.ok name, tables.enter ref.id name)

/-- Register aliases in order, up to the first failure. -/
def registerAll (tables : AliasTables) :
    List AliasRef → Except QueryError Unit × AliasTables
  | [] => (.ok (), tables)
  | ref :: rest =>
      match tables.register ref with
      | (.ok _, after) => after.registerAll rest
      | (.error error, after) => (.error error, after)

/-- The tables after a call, whether or not it fails. -/
def after (tables : AliasTables) : AliasNames.Call → AliasTables
  | .register ref => (tables.register ref).2
  | .registerAll aliases =>
      (tables.registerAll ((Alias.withNested aliases).map Alias.ref)).2
  | .clear => reserving []

/-- The tables after calls, one after the other. -/
def afterAll (tables : AliasTables) (calls : List AliasNames.Call) :
    AliasTables :=
  calls.foldl after tables

/-! ## Tables that follow the names of a scope -/

/-- Look-up in the tables is look-up among the names. -/
structure Follow (tables : AliasTables) (names : AliasNames) : Prop where
  byName : ∀ name, tables.ids[name]? = names.idOf? name
  byId : ∀ id, tables.names[id]? = names.nameOf? id
  reserved : ∀ name, name ∈ tables.reserved ↔ name ∈ names.reserved

namespace Follow

variable {tables : AliasTables} {names : AliasNames}

theorem reserving (reserved : List String) :
    (AliasTables.reserving reserved).Follow (.reserving reserved) := by
  constructor
  · exact fun name => Std.HashMap.getElem?_empty
  · exact fun id => Std.HashMap.getElem?_empty
  · intro name
    simp [AliasTables.reserving, AliasNames.reserving]

theorem mem_ids (follow : tables.Follow names) (name : String) :
    name ∈ tables.ids ↔ name ∈ names.assignedNames := by
  rw [Std.HashMap.mem_iff_isSome_getElem?, follow.byName,
    Option.isSome_iff_ne_none, ne_eq, AliasNames.idOf?_eq_none_iff, not_not]

theorem mem_taken (follow : tables.Follow names) (name : String) :
    name ∈ tables.taken ↔ name ∈ names.taken := by
  rw [taken, AliasNames.taken, List.mem_append, List.mem_append,
    ← follow.mem_ids, ← follow.reserved]
  simp

/-- Both searches stop at the first name that is not taken. -/
theorem freeName (follow : tables.Follow names) :
    tables.freeName = names.freeName := by
  have lowest : AliasNames.IsLowestFree tables.taken tables.freeName := by
    obtain ⟨least, free⟩ := Nat.find_spec tables.exists_isFree
    refine ⟨_, least, rfl, isFree_iff.mp free, ?_⟩
    intro smaller positive before
    by_contra held
    exact Nat.find_min tables.exists_isFree before
      ⟨positive, isFree_iff.mpr held⟩
  exact AliasNames.IsLowestFree.unique follow.mem_taken
    names.freeName_isLowestFree lowest

theorem enter (follow : tables.Follow names) {ref : AliasRef}
    (fresh : names.nameOf? ref.id = none)
    (free : names.nameFor ref ∉ names.assignedNames) :
    (tables.enter ref.id (names.nameFor ref)).Follow (names.assign ref) := by
  constructor
  · intro name
    simp [AliasTables.enter, Std.HashMap.getElem?_insert,
      AliasNames.idOf?_assign free, follow.byName]
  · intro id
    simp [AliasTables.enter, Std.HashMap.getElem?_insert,
      AliasNames.nameOf?_assign fresh, follow.byId]
  · exact follow.reserved

/-- One registration in the tables is one among the names.  What is answered is
the failure, or the name that the alias goes by afterwards. -/
theorem register (follow : tables.Follow names) (ref : AliasRef) :
    (tables.register ref).2.Follow (names.register ref).names ∧
      match (names.register ref).failure with
      | some error => (tables.register ref).1 = .error error
      | none => ∃ name,
          (names.register ref).names.nameOf? ref.id = some name ∧
            (tables.register ref).1 = .ok name := by
  have named : ref.name.getD tables.freeName = names.nameFor ref := by
    rw [follow.freeName, AliasNames.nameFor]
  rcases names.register_cases ref with
    ⟨name, found, step⟩ | ⟨fresh, held, step⟩ | ⟨fresh, free, step⟩
  · rw [step, AliasTables.register, follow.byId, found]
    exact ⟨follow, name, rfl, rfl⟩
  · rw [step, AliasTables.register, follow.byId, fresh]
    dsimp only
    rw [named, if_pos ((follow.mem_ids _).mpr held)]
    exact ⟨follow, rfl⟩
  · rw [step, AliasTables.register, follow.byId, fresh]
    dsimp only
    rw [named, if_neg fun held => free ((follow.mem_ids _).mp held)]
    refine ⟨follow.enter fresh free, _, ?_, rfl⟩
    rw [AliasNames.nameOf?_assign fresh, if_pos rfl]

/-- Both stop at the same failure. -/
theorem registerAll (follow : tables.Follow names) (refs : List AliasRef) :
    (tables.registerAll refs).2.Follow (names.registerAll refs).names ∧
      (tables.registerAll refs).1 =
        match (names.registerAll refs).failure with
        | some error => .error error
        | none => .ok () := by
  induction refs generalizing tables names with
  | nil => exact ⟨follow, rfl⟩
  | cons ref rest ih =>
      obtain ⟨next, answer⟩ := follow.register ref
      rw [AliasTables.registerAll, AliasNames.registerAll]
      cases result : tables.register ref with
      | mk given after =>
          rw [result] at next answer
          cases failed : (names.register ref).failure with
          | some error =>
              rw [failed] at answer
              cases answer
              exact ⟨next, by rw [failed]⟩
          | none =>
              rw [failed] at answer
              obtain ⟨name, _, rfl⟩ := answer
              exact ih next

theorem after (follow : tables.Follow names) (call : AliasNames.Call) :
    (tables.after call).Follow (names.after call) := by
  cases call with
  | register ref => exact (follow.register ref).1
  | registerAll aliases => exact (follow.registerAll _).1
  | clear => exact reserving []

theorem afterAll (follow : tables.Follow names)
    (calls : List AliasNames.Call) :
    (tables.afterAll calls).Follow (names.afterAll calls) := by
  induction calls generalizing tables names with
  | nil => exact follow
  | cons call rest ih => exact ih (follow.after call)

/-- The tables are inverse to each other. -/
theorem inverse (follow : tables.Follow names) (distinct : names.Distinct)
    (id : AliasId) (name : String) :
    tables.names[id]? = some name ↔ tables.ids[name]? = some id := by
  rw [follow.byId, follow.byName, distinct.nameOf?_eq_some_iff,
    distinct.idOf?_eq_some_iff]

end Follow

end AliasTables

end SqlWeave
