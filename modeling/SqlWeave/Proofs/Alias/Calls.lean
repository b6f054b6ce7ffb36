import SqlWeave.Proofs.Alias.Tables

/-!
# Calls on the names of a scope

What one registration does to the names of a scope: nothing, if the alias has a
name; else it enters the alias under a name that nobody holds, or it is refused
because somebody does (`AliasNames.Registers`).  That no other change is
possible after any calls, and that two tables changed in place never come apart,
is the main statement (`AliasNames.calls_kept_in_tables`).
-/

namespace SqlWeave

namespace AliasNames

variable {names : AliasNames} {ref : AliasRef} {refs : List AliasRef}

/-- What registering an alias answers, and the names afterwards. -/
inductive Registers (names : AliasNames) (ref : AliasRef) :
    Except QueryError String → AliasNames → Prop where
  /-- A registered alias keeps its name and nothing changes. -/
  | known {name : String} (held : names.nameOf? ref.id = some name) :
      Registers names ref (.ok name) names
  /-- The alias is entered under its own name, or under one that is not
  reserved.  Look-up of all others is as before. -/
  | entered {name : String} {later : AliasNames}
      (fresh : names.nameOf? ref.id = none) (unheld : names.idOf? name = none)
      (origin : ref.name = some name ∨
        ref.name = none ∧ name ∉ names.reserved)
      (byId : ∀ id, later.nameOf? id =
        if ref.id = id then some name else names.nameOf? id)
      (byName : ∀ other, later.idOf? other =
        if name = other then some ref.id else names.idOf? other)
      (reserved : later.reserved = names.reserved) :
      Registers names ref (.ok name) later
  /-- Another alias holds the name that the alias was given; nothing changes. -/
  | refused {name : String} {holder : AliasId}
      (fresh : names.nameOf? ref.id = none) (own : ref.name = some name)
      (other : holder ≠ ref.id) (held : names.idOf? name = some holder) :
      Registers names ref (.error (.duplicateAlias name)) names

/-- The name that an alias cannot have is its own, and another alias has it. -/
theorem exists_holder (distinct : names.Distinct)
    (fresh : names.nameOf? ref.id = none)
    (held : names.nameFor ref ∈ names.assignedNames) :
    ref.name = some (names.nameFor ref) ∧
      ∃ holder, holder ≠ ref.id ∧
        names.idOf? (names.nameFor ref) = some holder := by
  obtain ⟨⟨holder, name⟩, member, equal⟩ := List.mem_map.mp held
  constructor
  · rcases names.nameFor_cases ref with own | ⟨_, free⟩
    · exact own
    · exact absurd (List.mem_append_left _ held) free
  · refine ⟨holder, ?_, ?_⟩
    · rintro rfl
      exact nameOf?_eq_none_iff.mp fresh (List.mem_map_of_mem member)
    · rw [distinct.idOf?_eq_some_iff, ← equal]
      exact member

/-- A registration does one of the three things, and the answer of the tables
tells which. -/
theorem registers_of_follow {tables : AliasTables}
    (follow : tables.Follow names) (distinct : names.Distinct)
    (ref : AliasRef) :
    names.Registers ref (tables.register ref).1 (names.register ref).names := by
  obtain ⟨_, answer⟩ := follow.register ref
  rcases names.register_cases ref with
    ⟨name, found, step⟩ | ⟨fresh, held, step⟩ | ⟨fresh, free, step⟩
  · rw [step] at answer ⊢
    obtain ⟨given, known, answered⟩ := answer
    cases found.symm.trans known
    rw [answered]
    exact .known found
  · obtain ⟨own, holder, other, holds⟩ := exists_holder distinct fresh held
    rw [step] at answer ⊢
    rw [show (tables.register ref).1 = _ from answer]
    exact .refused fresh own other holds
  · rw [step] at answer ⊢
    obtain ⟨given, known, answered⟩ := answer
    rw [nameOf?_assign fresh, if_pos rfl] at known
    cases known
    rw [answered]
    refine .entered fresh (idOf?_eq_none_iff.mpr free) ?_
      (nameOf?_assign fresh) (idOf?_assign free) rfl
    refine (names.nameFor_cases ref).imp_right ?_
    rintro ⟨unnamed, untaken⟩
    exact ⟨unnamed, fun held => untaken (List.mem_append_right _ held)⟩

/-! ## Aliases without names -/

/-- After the first generated names the next one is free. -/
theorem freeName_of_numbered {count : Nat} (unreserved : names.reserved = [])
    (numbered : names.assignedNames = (List.range' 1 count).map generated) :
    names.freeName = generated (count + 1) := by
  have inside (number : Nat) : generated number ∈ names.taken ↔
      1 ≤ number ∧ number < count + 1 := by
    rw [taken, unreserved, numbered, List.append_nil,
      List.mem_map_of_injective generated_injective, List.mem_range'_1,
      Nat.add_comm 1]
  have lowest : IsLowestFree names.taken (generated (count + 1)) := by
    refine ⟨count + 1, Nat.le_add_left 1 count, rfl, ?_, ?_⟩
    · rw [inside]
      omega
    · intro smaller positive before
      exact (inside smaller).mpr ⟨positive, before⟩
  exact IsLowestFree.unique (fun _ => Iff.rfl) lowest
    names.freeName_isLowestFree

/-- The entries of aliases that are numbered from a number on. -/
def numberedFrom (number : Nat) (refs : List AliasRef) :
    List (AliasId × String) :=
  refs.mapIdx fun index ref => (ref.id, generated (number + index))

/-- Distinct aliases without names are numbered on. -/
theorem registerAll_of_unnamed (count : Nat)
    (unreserved : names.reserved = [])
    (numbered : names.assignedNames = (List.range' 1 count).map generated)
    (distinct : (refs.map AliasRef.id).Nodup)
    (fresh : ∀ ref ∈ refs, names.nameOf? ref.id = none)
    (unnamed : ∀ ref ∈ refs, ref.name = none) :
    (names.registerAll refs).failure = none ∧
      (names.registerAll refs).names.assigned =
        names.assigned ++ numberedFrom (count + 1) refs := by
  induction refs generalizing names count with
  | nil => exact ⟨rfl, (List.append_nil _).symm⟩
  | cons ref rest ih =>
      obtain ⟨first, others⟩ := List.nodup_cons.mp distinct
      obtain ⟨new, later⟩ := List.forall_mem_cons.mp fresh
      obtain ⟨nameless, otherwise⟩ := List.forall_mem_cons.mp unnamed
      have named : names.nameFor ref = generated (count + 1) := by
        rw [nameFor, nameless, freeName_of_numbered unreserved numbered]
        rfl
      have free : names.nameFor ref ∉ names.assignedNames := by
        rcases names.nameFor_cases ref with own | ⟨_, untaken⟩
        · cases nameless.symm.trans own
        · exact fun held => untaken (List.mem_append_left _ held)
      have step : names.register ref =
          ⟨names.assign ref, [.registered (names.nameFor ref) ref.id],
            none⟩ := by
        rcases names.register_cases ref with
          ⟨_, found, _⟩ | ⟨_, held, _⟩ | ⟨_, _, step⟩
        · cases new.symm.trans found
        · exact absurd held free
        · exact step
      have still : (names.assign ref).reserved = [] := unreserved
      have continued : (names.assign ref).assignedNames =
          (List.range' 1 (count + 1)).map generated := by
        rw [assignedNames, assign, List.map_append, List.range'_concat,
          List.map_append, ← numbered, named]
        simp [assignedNames, Nat.add_comm]
      have unmet : ∀ other ∈ rest,
          (names.assign ref).nameOf? other.id = none := by
        intro other member
        rw [nameOf?_assign new, if_neg, later other member]
        exact fun same => first (same ▸ List.mem_map_of_mem member)
      obtain ⟨succeeds, entries⟩ :=
        ih (count + 1) still continued others unmet otherwise
      rw [registerAll, step]
      refine ⟨succeeds, entries.trans ?_⟩
      have shifted (index : Nat) :
          count + 1 + 1 + index = count + 1 + (index + 1) := by omega
      rw [assign, named, List.append_assoc, numberedFrom, numberedFrom,
        List.mapIdx_cons]
      simp [shifted]

/-- Aliases that can be registered together can be registered one by one. -/
theorem afterAll_register
    (succeeded : (names.registerAll refs).failure = none) :
    names.afterAll (refs.map .register) = (names.registerAll refs).names := by
  induction refs generalizing names with
  | nil => rfl
  | cons ref rest ih =>
      by_cases first : (names.register ref).failure = none
      · rw [(registerAll_cons_of_success first).1] at succeeded
        rw [(registerAll_cons_of_success first).2, ← ih succeeded]
        rfl
      · exact absurd succeeded (registerAll_cons_of_failure first)

/-- In a scope without names, aliases without names are numbered from one. -/
theorem registerAll_empty_of_unnamed (distinct : (refs.map AliasRef.id).Nodup)
    (unnamed : ∀ ref ∈ refs, ref.name = none) :
    (empty.registerAll refs).failure = none ∧
      (empty.registerAll refs).names = ⟨numberedFrom 1 refs, []⟩ := by
  obtain ⟨succeeds, entries⟩ :=
    registerAll_of_unnamed 0 (show empty.reserved = [] from rfl) rfl distinct
      (fun _ _ => rfl) unnamed
  have unreserved := reserved_registerAll empty refs
  cases after : (empty.registerAll refs).names with
  | mk assigned reserved =>
      rw [after] at entries unreserved
      cases entries
      cases unreserved
      exact ⟨succeeds, rfl⟩

/-! ## Sequences of calls -/

/-- After any calls the two tables hold the names of the scope and are inverse
to each other.  One more registration answers and does one of three things, and
it fails for the scope as it does for the tables.  After the names are forgotten
everything is as in a new scope, where aliases without names are numbered from
one, whether they are registered together or one by one. -/
theorem calls_kept_in_tables (reserved : List String) (calls : List Call) :
    let names := (reserving reserved).afterAll calls
    let tables := (AliasTables.reserving reserved).afterAll calls
    tables.Follow names ∧
    (∀ (id : AliasId) (name : String),
      tables.names[id]? = some name ↔ tables.ids[name]? = some id) ∧
    (∀ ref,
      names.Registers ref (tables.register ref).1 (names.register ref).names ∧
      (tables.register ref).2.Follow (names.register ref).names ∧
      ∀ error, (names.register ref).failure = some error ↔
        (tables.register ref).1 = .error error) ∧
    (∀ later,
      (reserving reserved).afterAll (calls ++ .clear :: later) =
        empty.afterAll later) ∧
    ∀ refs : List AliasRef, (refs.map AliasRef.id).Nodup →
      (∀ ref ∈ refs, ref.name = none) →
      ((names.after .clear).registerAll refs).failure = none ∧
      ((names.after .clear).registerAll refs).names =
        ⟨numberedFrom 1 refs, []⟩ ∧
      (names.after .clear).afterAll (refs.map .register) =
        ⟨numberedFrom 1 refs, []⟩ := by
  intro names tables
  have follow : tables.Follow names :=
    (AliasTables.Follow.reserving reserved).afterAll calls
  have distinct : names.Distinct := (distinct_reserving reserved).afterAll calls
  refine ⟨follow, follow.inverse distinct, ?_, ?_, ?_⟩
  · intro ref
    obtain ⟨next, answer⟩ := follow.register ref
    refine ⟨registers_of_follow follow distinct ref, next, ?_⟩
    intro error
    cases failed : (names.register ref).failure with
    | some other =>
        rw [failed] at answer
        rw [show (tables.register ref).1 = .error other from answer]
        simp
    | none =>
        rw [failed] at answer
        obtain ⟨name, _, answered⟩ := answer
        rw [answered]
        simp
  · intro later
    rw [afterAll, List.foldl_append, List.foldl_cons]
    rfl
  · intro refs nodup unnamed
    obtain ⟨succeeds, numbered⟩ := registerAll_empty_of_unnamed nodup unnamed
    exact ⟨succeeds, numbered, (afterAll_register succeeds).trans numbered⟩

/-- The name `t1` is reserved, so the first alias gets `t2`, which the second
one is refused; the third may have the reserved name. -/
def shadowingCalls : List Call :=
  [.register ⟨⟨1⟩, none⟩, .register ⟨⟨2⟩, some "t2"⟩,
    .register ⟨⟨3⟩, some "t1"⟩]

theorem calls_kept_in_tables_shadowing :
    let refs : List AliasRef := [⟨⟨2⟩, none⟩, ⟨⟨1⟩, none⟩]
    let names := (reserving ["t1"]).afterAll shadowingCalls
    (refs.map AliasRef.id).Nodup ∧ (∀ ref ∈ refs, ref.name = none) ∧
    names.assigned = [(⟨1⟩, "t2"), (⟨3⟩, "t1")] ∧
    ((names.after .clear).registerAll refs).names =
      ⟨[(⟨2⟩, "t1"), (⟨1⟩, "t2")], []⟩ := by
  intro refs names
  have distinct : (refs.map AliasRef.id).Nodup := by decide
  have unnamed : ∀ ref ∈ refs, ref.name = none := by decide
  obtain ⟨_, _, _, _, numbered⟩ := calls_kept_in_tables ["t1"] shadowingCalls
  obtain ⟨_, assigned, _⟩ := numbered refs distinct unnamed
  exact ⟨distinct, unnamed, by decide, assigned.trans (by decide)⟩

end AliasNames

end SqlWeave
