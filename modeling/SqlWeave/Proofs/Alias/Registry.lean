import SqlWeave.Proofs.Alias.Generation

/-!
# Registered aliases

What is known of the names of a scope: no alias has two of them and no two
aliases share one, and each name is the alias's own or a generated one.  One
step of registration is described once (`register_cases`); what holds after any
number of steps follows by induction.
-/

namespace SqlWeave

/-- Aliases are told apart by their identity alone. -/
def AliasRef.Coherent (refs : List AliasRef) : Prop :=
  ∀ first ∈ refs, ∀ second ∈ refs, first.id = second.id → first = second

instance (refs : List AliasRef) : Decidable (AliasRef.Coherent refs) :=
  inferInstanceAs (Decidable (∀ first ∈ refs, _))

namespace AliasNames

/-- The alias that goes by a name. -/
def idOf? (names : AliasNames) (name : String) : Option AliasId :=
  (names.assigned.find? fun entry => entry.2 == name).map Prod.fst

/-- The name under which an alias would be registered. -/
def nameFor (names : AliasNames) (ref : AliasRef) : String :=
  ref.name.getD names.freeName

/-- The names after an alias was registered under its name. -/
def assign (names : AliasNames) (ref : AliasRef) : AliasNames :=
  { names with assigned := names.assigned ++ [(ref.id, names.nameFor ref)] }

/-- No alias has two names and no two aliases share one. -/
structure Distinct (names : AliasNames) : Prop where
  ids : (names.assigned.map Prod.fst).Nodup
  names : names.assignedNames.Nodup

/-- The name is the alias's own, or was generated and is not reserved. -/
def Origin (refs : List AliasRef) (reserved : List String)
    (entry : AliasId × String) : Prop :=
  ∃ ref ∈ refs, ref.id = entry.1 ∧
    (ref.name = some entry.2 ∨ ref.name = none ∧ entry.2 ∉ reserved)

variable {names : AliasNames} {ref : AliasRef} {refs : List AliasRef}
variable {id : AliasId} {name : String}

theorem mem_assigned_of_nameOf? (found : names.nameOf? id = some name) :
    (id, name) ∈ names.assigned := by
  obtain ⟨front, back, split, _⟩ := List.lookup_eq_some_iff.mp found
  rw [split]
  exact List.mem_append_right _ List.mem_cons_self

theorem nameOf?_eq_none_iff :
    names.nameOf? id = none ↔ id ∉ names.assigned.map Prod.fst := by
  rw [nameOf?, List.lookup_eq_none_iff, List.mem_map]
  constructor
  · rintro absent ⟨entry, member, rfl⟩
    exact absurd rfl (bne_iff_ne.mp (absent entry member))
  · intro absent entry member
    exact bne_iff_ne.mpr fun equal => absent ⟨entry, member, equal.symm⟩

theorem mem_assigned_of_idOf? (found : names.idOf? name = some id) :
    (id, name) ∈ names.assigned := by
  obtain ⟨entry, held, rfl⟩ := Option.map_eq_some_iff.mp found
  have same := List.find?_some held
  rw [← beq_iff_eq.mp same]
  exact List.mem_of_find?_eq_some held

theorem idOf?_eq_none_iff :
    names.idOf? name = none ↔ name ∉ names.assignedNames := by
  rw [idOf?, Option.map_eq_none_iff, List.find?_eq_none, assignedNames,
    List.mem_map]
  constructor
  · rintro absent ⟨entry, member, rfl⟩
    exact absent entry member (beq_self_eq_true _)
  · intro absent entry member equal
    exact absent ⟨entry, member, beq_iff_eq.mp equal⟩

namespace Distinct

/-- The entry of an alias is the only one with its identity. -/
theorem name_eq (distinct : names.Distinct) {other : String}
    (first : (id, name) ∈ names.assigned)
    (second : (id, other) ∈ names.assigned) : name = other :=
  congrArg Prod.snd
    (List.inj_on_of_nodup_map distinct.ids first second rfl)

/-- The entry of a name is the only one with this name. -/
theorem id_eq (distinct : names.Distinct) {other : AliasId}
    (first : (id, name) ∈ names.assigned)
    (second : (other, name) ∈ names.assigned) : id = other :=
  congrArg Prod.fst
    (List.inj_on_of_nodup_map distinct.names first second rfl)

theorem nameOf?_eq_some_iff (distinct : names.Distinct) :
    names.nameOf? id = some name ↔ (id, name) ∈ names.assigned := by
  constructor
  · exact mem_assigned_of_nameOf?
  · intro member
    cases found : names.nameOf? id with
    | none =>
        exact absurd (List.mem_map_of_mem member) (nameOf?_eq_none_iff.mp found)
    | some other =>
        rw [distinct.name_eq (mem_assigned_of_nameOf? found) member]

theorem idOf?_eq_some_iff (distinct : names.Distinct) :
    names.idOf? name = some id ↔ (id, name) ∈ names.assigned := by
  constructor
  · exact mem_assigned_of_idOf?
  · intro member
    cases found : names.idOf? name with
    | none =>
        exact absurd (List.mem_map_of_mem member) (idOf?_eq_none_iff.mp found)
    | some other =>
        rw [distinct.id_eq (mem_assigned_of_idOf? found) member]

end Distinct

/-! ## One step -/

/-- What registering an alias can do. -/
theorem register_cases (names : AliasNames) (ref : AliasRef) :
    (∃ name, names.nameOf? ref.id = some name ∧
      names.register ref = ⟨names, [], none⟩) ∨
    (names.nameOf? ref.id = none ∧
      names.nameFor ref ∈ names.assignedNames ∧
      names.register ref =
        ⟨names, [], some (.duplicateAlias (names.nameFor ref))⟩) ∨
    (names.nameOf? ref.id = none ∧
      names.nameFor ref ∉ names.assignedNames ∧
      names.register ref =
        ⟨names.assign ref, [.registered (names.nameFor ref) ref.id], none⟩) := by
  cases found : names.nameOf? ref.id with
  | some name =>
      refine .inl ⟨name, rfl, ?_⟩
      rw [register, found]
  | none =>
      refine .inr ?_
      by_cases held : names.nameFor ref ∈ names.assignedNames
      · refine .inl ⟨rfl, held, ?_⟩
        rw [register, found]
        exact if_pos (List.contains_iff_mem.mpr held)
      · refine .inr ⟨rfl, held, ?_⟩
        rw [register, found]
        exact if_neg fun holds => held (List.contains_iff_mem.mp holds)

theorem Distinct.assign (distinct : names.Distinct)
    (fresh : names.nameOf? ref.id = none)
    (free : names.nameFor ref ∉ names.assignedNames) :
    (names.assign ref).Distinct := by
  constructor
  · rw [AliasNames.assign, List.map_append]
    exact List.Nodup.append distinct.ids (List.nodup_singleton _)
      (List.disjoint_singleton.mpr (nameOf?_eq_none_iff.mp fresh))
  · rw [assignedNames, AliasNames.assign, List.map_append]
    exact List.Nodup.append distinct.names (List.nodup_singleton _)
      (List.disjoint_singleton.mpr free)

theorem Distinct.register (distinct : names.Distinct) (ref : AliasRef) :
    (names.register ref).names.Distinct := by
  rcases names.register_cases ref with
    ⟨_, _, step⟩ | ⟨_, _, step⟩ | ⟨fresh, free, step⟩
  · rw [step]
    exact distinct
  · rw [step]
    exact distinct
  · rw [step]
    exact distinct.assign fresh free

/-- A name that an alias gets is its own or is not taken. -/
theorem nameFor_cases (names : AliasNames) (ref : AliasRef) :
    ref.name = some (names.nameFor ref) ∨
      ref.name = none ∧ names.nameFor ref ∉ names.taken := by
  cases own : ref.name with
  | some name =>
      refine .inl ?_
      rw [nameFor, own]
      rfl
  | none =>
      refine .inr ⟨rfl, ?_⟩
      rw [nameFor, own]
      exact names.freeName_not_mem_taken

/-! ## Runs -/

theorem Distinct.registerAll (distinct : names.Distinct)
    (refs : List AliasRef) : (names.registerAll refs).names.Distinct := by
  induction refs generalizing names with
  | nil => exact distinct
  | cons ref rest ih =>
      have next := distinct.register ref
      rw [AliasNames.registerAll]
      cases failed : (names.register ref).failure with
      | some error => exact next
      | none => exact ih next

theorem distinct_reserving (reserved : List String) :
    (reserving reserved).Distinct :=
  ⟨List.nodup_nil, List.nodup_nil⟩

/-- Every entry beyond those of `names` has its origin in one of the aliases
that were registered. -/
theorem origin_of_registerAll {entry : AliasId × String}
    (member : entry ∈ (names.registerAll refs).names.assigned) :
    entry ∈ names.assigned ∨ Origin refs names.reserved entry := by
  induction refs generalizing names with
  | nil => exact .inl member
  | cons ref rest ih =>
      have later : Origin rest names.reserved entry →
          Origin (ref :: rest) names.reserved entry := by
        rintro ⟨source, among, origin⟩
        exact ⟨source, List.mem_cons_of_mem _ among, origin⟩
      rw [AliasNames.registerAll] at member
      rcases names.register_cases ref with
        ⟨_, _, step⟩ | ⟨_, _, step⟩ | ⟨_, _, step⟩
      · rw [step] at member
        exact (ih member).imp_right later
      · rw [step] at member
        exact .inl member
      · rw [step] at member
        rcases ih member with earlier | origin
        · rcases List.mem_append.mp earlier with old | new
          · exact .inl old
          · refine .inr ⟨ref, List.mem_cons_self, ?_⟩
            rw [List.mem_singleton.mp new]
            refine ⟨rfl, (names.nameFor_cases ref).imp_right ?_⟩
            rintro ⟨unnamed, free⟩
            exact ⟨unnamed, fun held => free (List.mem_append_right _ held)⟩
        · exact .inr (later origin)

/-- Registration keeps what is registered. -/
theorem subset_registerAll (names : AliasNames) (refs : List AliasRef) :
    names.assigned ⊆ (names.registerAll refs).names.assigned := by
  induction refs generalizing names with
  | nil => exact List.Subset.refl _
  | cons ref rest ih =>
      rw [AliasNames.registerAll]
      rcases names.register_cases ref with
        ⟨_, _, step⟩ | ⟨_, _, step⟩ | ⟨_, _, step⟩
      · rw [step]
        exact ih names
      · rw [step]
        exact List.Subset.refl _
      · rw [step]
        exact List.Subset.trans (List.subset_append_left _ _)
          (ih (names.assign ref))

/-- If nothing fails, every alias ends up with a name. -/
theorem registered_of_registerAll
    (succeeded : (names.registerAll refs).failure = none)
    (member : ref ∈ refs) :
    ∃ name, (ref.id, name) ∈ (names.registerAll refs).names.assigned := by
  induction refs generalizing names with
  | nil => cases member
  | cons first rest ih =>
      rw [AliasNames.registerAll] at succeeded ⊢
      rcases names.register_cases first with
        ⟨name, found, step⟩ | ⟨_, _, step⟩ | ⟨_, _, step⟩
      · rw [step] at succeeded ⊢
        rcases List.mem_cons.mp member with rfl | later
        · exact ⟨name, subset_registerAll names rest
            (mem_assigned_of_nameOf? found)⟩
        · exact ih succeeded later
      · rw [step] at succeeded
        cases succeeded
      · rw [step] at succeeded ⊢
        rcases List.mem_cons.mp member with rfl | later
        · exact ⟨names.nameFor ref, subset_registerAll (names.assign ref) rest
            (List.mem_append_right _ List.mem_cons_self)⟩
        · exact ih succeeded later

/-! ## Failures -/

/-- The alias has no name yet, and the one that it was given is held by another
alias. -/
def Clashes (names : AliasNames) (ref : AliasRef) : Prop :=
  names.nameOf? ref.id = none ∧
    ∃ name holder, ref.name = some name ∧ holder ≠ ref.id ∧
      (holder, name) ∈ names.assigned

/-- Only a name that was given can be held already; a generated one is free. -/
theorem failure_register_ne_none_iff :
    (names.register ref).failure ≠ none ↔ names.Clashes ref := by
  rcases names.register_cases ref with
    ⟨name, found, step⟩ | ⟨fresh, held, step⟩ | ⟨fresh, free, step⟩
  · simp [step, Clashes, found]
  · simp only [step, ne_eq, reduceCtorEq, not_false_eq_true, true_iff]
    refine ⟨fresh, ?_⟩
    obtain ⟨⟨holder, name⟩, member, equal⟩ := List.mem_map.mp held
    rcases names.nameFor_cases ref with own | ⟨_, free⟩
    · refine ⟨name, holder, ?_, ?_, member⟩
      · rw [own, ← equal]
      · rintro rfl
        exact nameOf?_eq_none_iff.mp fresh (List.mem_map_of_mem member)
    · exact absurd (List.mem_append_left _ held) free
  · simp only [step, ne_eq, not_true_eq_false, false_iff]
    rintro ⟨_, name, holder, named, _, member⟩
    have own : names.nameFor ref = name := by
      rw [nameFor, named]
      rfl
    rw [own] at free
    exact free (List.mem_map_of_mem member)

theorem registerAll_cons_of_success
    (succeeded : (names.register ref).failure = none) :
    (names.registerAll (ref :: refs)).failure =
        ((names.register ref).names.registerAll refs).failure ∧
      (names.registerAll (ref :: refs)).names =
        ((names.register ref).names.registerAll refs).names := by
  rw [registerAll, succeeded]
  exact ⟨rfl, rfl⟩

theorem registerAll_cons_of_failure
    (failed : (names.register ref).failure ≠ none) :
    (names.registerAll (ref :: refs)).failure ≠ none := by
  obtain ⟨error, held⟩ := Option.ne_none_iff_exists'.mp failed
  rw [registerAll, held]
  exact failed

/-- Aliases cannot be registered if and only if one of them clashes when its
turn comes. -/
theorem failure_registerAll_ne_none_iff :
    (names.registerAll refs).failure ≠ none ↔
      ∃ before ref after, refs = before ++ ref :: after ∧
        (names.registerAll before).names.Clashes ref := by
  induction refs generalizing names with
  | nil => simp [registerAll]
  | cons first rest ih =>
      by_cases succeeded : (names.register first).failure = none
      · rw [(registerAll_cons_of_success succeeded).1, ih]
        constructor
        · rintro ⟨before, ref, after, split, clash⟩
          refine ⟨first :: before, ref, after, by rw [split]; rfl, ?_⟩
          rw [(registerAll_cons_of_success succeeded).2]
          exact clash
        · rintro ⟨before, ref, after, split, clash⟩
          cases before with
          | nil =>
              cases split
              exact absurd succeeded (failure_register_ne_none_iff.mpr clash)
          | cons head before =>
              rw [List.cons_append, List.cons.injEq] at split
              obtain ⟨rfl, tails⟩ := split
              rw [(registerAll_cons_of_success succeeded).2] at clash
              exact ⟨before, ref, after, tails, clash⟩
      · refine iff_of_true (registerAll_cons_of_failure succeeded) ?_
        exact ⟨[], first, rest, rfl, failure_register_ne_none_iff.mp succeeded⟩

/-! ## Runs one after the other -/

/-- If aliases can be registered then so can the first of them, and the others
continue with their names. -/
theorem registerAll_append_of_success {before after : List AliasRef}
    (succeeded : (names.registerAll (before ++ after)).failure = none) :
    ((names.registerAll before).names.registerAll after).failure = none ∧
      (names.registerAll (before ++ after)).names =
        ((names.registerAll before).names.registerAll after).names := by
  induction before generalizing names with
  | nil => exact ⟨succeeded, rfl⟩
  | cons first rest ih =>
      by_cases registered : (names.register first).failure = none
      · rw [List.cons_append, (registerAll_cons_of_success registered).1]
          at succeeded
        rw [List.cons_append, (registerAll_cons_of_success registered).2,
          (registerAll_cons_of_success registered).2]
        exact ih succeeded
      · exact absurd succeeded (registerAll_cons_of_failure registered)

theorem reserved_registerAll (names : AliasNames) (refs : List AliasRef) :
    (names.registerAll refs).names.reserved = names.reserved := by
  induction refs generalizing names with
  | nil => rfl
  | cons ref rest ih =>
      rw [AliasNames.registerAll]
      rcases names.register_cases ref with
        ⟨_, _, step⟩ | ⟨_, _, step⟩ | ⟨_, _, step⟩
      · rw [step]
        exact ih names
      · rw [step]
      · rw [step]
        exact ih (names.assign ref)

/-- An alias without a name that is not registered yet gets the free name. -/
theorem mem_registerAll_of_unnamed {after : List AliasRef}
    (succeeded : (names.registerAll (ref :: after)).failure = none)
    (unnamed : ref.name = none) (first : names.nameOf? ref.id = none) :
    (ref.id, names.freeName) ∈
      (names.registerAll (ref :: after)).names.assigned := by
  have own : names.nameFor ref = names.freeName := by
    rw [nameFor, unnamed]
    rfl
  rw [registerAll] at succeeded ⊢
  rcases names.register_cases ref with
    ⟨name, found, _⟩ | ⟨_, _, step⟩ | ⟨_, _, step⟩
  · rw [first] at found
    cases found
  · rw [step] at succeeded
    cases succeeded
  · rw [step]
    apply subset_registerAll (names.assign ref) after
    rw [assign, own]
    exact List.mem_append_right _ List.mem_cons_self

end AliasNames

end SqlWeave
