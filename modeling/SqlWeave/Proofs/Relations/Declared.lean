import SqlWeave.Proofs.Relations.Inference
import SqlWeave.Proofs.Relations.Transparency

/-!
# Declared relations either way

Two sources are related by a foreign key of either one to the table behind the
other.  Both orders of the sources ask both directions, each its own first, so
they succeed together, and they give the same predicate unless there is a key in
each direction (`RelationLookup.declared_either_way`).
-/

namespace SqlWeave

namespace Source

/-- The first field of a source that is a foreign key to the table of the other
one, with a label that leads to a field there, is the key, and that field is the
target. -/
def LeadsTo (referring referred : Source) (key target : Field) : Prop :=
  ∃ table before after label,
    referred.table? = some table ∧
    referring.fields = before ++ key :: after ∧
    key.IsKeyTo table label ∧
    referred.field? label = some target ∧
    ∀ earlier ∈ before, ∀ other, earlier.IsKeyTo table other →
      referred.field? other = none

/-- Some field of a source leads to the other one. -/
def Refers (referring referred : Source) : Prop :=
  ∃ key target, referring.LeadsTo referred key target

end Source

namespace RelationLookup

variable {left right referring referred : Source} {predicate : Expr}

/-- A foreign key is followed to the column that the other source has under its
label. -/
theorem foreignKey?_eq_follow? (referring referred : Source) :
    foreignKey? referring referred =
      referred.table?.bind fun table =>
        (referring.fields.findSome?
          (Field.follow? (fun _ => referred.field?) table)).map fun pair =>
            Expr.equals (.field pair.1) (.field pair.2) := by
  rw [foreignKey?, Option.bind_eq_bind]
  congr 1
  funext table
  rw [List.map_findSome?]
  congr 1
  funext key
  rw [Function.comp_apply, Field.follow?]
  cases key.column.references with
  | none => rfl
  | some reference =>
      simp only [Option.bind_eq_bind, Option.bind_some]
      by_cases same : (reference.table == table.id) = true
      · rw [if_pos same, if_pos same]
        cases referred.field? reference.label <;> rfl
      · rw [if_neg same, if_neg same]
        rfl

theorem foreignKey?_eq_some_iff :
    foreignKey? referring referred = some predicate ↔
      ∃ key target, referring.LeadsTo referred key target ∧
        predicate = .binary .eq (.field key) (.field target) := by
  rw [foreignKey?_eq_follow?, Option.bind_eq_some_iff]
  constructor
  · rintro ⟨table, behind, found⟩
    obtain ⟨pair, first, rfl⟩ := Option.map_eq_some_iff.mp found
    obtain ⟨before, key, after, split, followed, silent⟩ :=
      List.findSome?_eq_some_iff.mp first
    obtain ⟨rfl, label, isKey, target⟩ := Field.follow?_eq_some_iff.mp followed
    refine ⟨pair.1, pair.2, ?_, rfl⟩
    refine ⟨table, before, after, label, behind, split, isKey, target, ?_⟩
    intro earlier front
    exact Field.follow?_eq_none_iff.mp (silent earlier front)
  · rintro ⟨key, target, ⟨table, before, after, label, behind, split, isKey,
      found, silent⟩, rfl⟩
    refine ⟨table, behind, Option.map_eq_some_iff.mpr ⟨(key, target), ?_, rfl⟩⟩
    refine List.findSome?_eq_some_iff.mpr ⟨before, key, after, split, ?_, ?_⟩
    · exact Field.follow?_eq_some_iff.mpr ⟨rfl, label, isKey, found⟩
    · intro earlier front
      exact Field.follow?_eq_none_iff.mpr (silent earlier front)

theorem foreignKey?_eq_none_iff :
    foreignKey? referring referred = none ↔ ¬ referring.Refers referred := by
  rw [Option.eq_none_iff_forall_ne_some]
  constructor
  · rintro silent ⟨key, target, leads⟩
    exact silent _ (foreignKey?_eq_some_iff.mpr ⟨key, target, leads, rfl⟩)
  · rintro alone predicate found
    obtain ⟨key, target, leads, _⟩ := foreignKey?_eq_some_iff.mp found
    exact alone ⟨key, target, leads⟩

theorem declared_eq_ok_iff :
    declared left right = .ok predicate ↔
      foreignKey? left right = some predicate ∨
        foreignKey? left right = none ∧
          foreignKey? right left = some predicate := by
  rw [declared]
  cases foreignKey? left right with
  | some found => simp
  | none =>
      cases foreignKey? right left with
      | some found => simp
      | none => simp [nothing]

/-- Sources are related if a field of either one leads to the other. -/
theorem declared_relates_iff :
    declared.Relates left right ↔ left.Refers right ∨ right.Refers left := by
  rw [Relates]
  simp only [declared_eq_ok_iff]
  rw [← not_iff_not, not_or, ← foreignKey?_eq_none_iff,
    ← foreignKey?_eq_none_iff]
  cases foreignKey? left right <;> cases foreignKey? right left <;> simp

/-- Both orders succeed together.  The predicate goes by the first field of the
source given first that leads to the other one, or of the other one if there is
none; where fields lead in one direction only, both orders give the same. -/
theorem declared_either_way (left right : Source) :
    (declared.Relates left right ↔ declared.Relates right left) ∧
    (∀ predicate, declared left right = .ok predicate ↔
      ∃ key target,
        (left.LeadsTo right key target ∨
          ¬ left.Refers right ∧ right.LeadsTo left key target) ∧
        predicate = .binary .eq (.field key) (.field target)) ∧
    ((left.Refers right ↔ ¬ right.Refers left) →
      ∃ predicate, declared left right = .ok predicate ∧
        declared right left = .ok predicate) := by
  refine ⟨?_, ?_, ?_⟩
  · rw [declared_relates_iff, declared_relates_iff]
    exact or_comm
  · intro predicate
    rw [declared_eq_ok_iff, foreignKey?_eq_some_iff, foreignKey?_eq_some_iff,
      foreignKey?_eq_none_iff]
    constructor
    · rintro (⟨key, target, leads, same⟩ | ⟨alone, key, target, leads, same⟩)
      · exact ⟨key, target, .inl leads, same⟩
      · exact ⟨key, target, .inr ⟨alone, leads⟩, same⟩
    · rintro ⟨key, target, leads | ⟨alone, leads⟩, same⟩
      · exact .inl ⟨key, target, leads, same⟩
      · exact .inr ⟨alone, key, target, leads, same⟩
  · intro once
    by_cases forward : left.Refers right
    · have backward := foreignKey?_eq_none_iff.mpr (once.mp forward)
      obtain ⟨key, target, leads⟩ := forward
      have found := foreignKey?_eq_some_iff.mpr ⟨key, target, leads, rfl⟩
      exact ⟨_, declared_eq_ok_iff.mpr (.inl found),
        declared_eq_ok_iff.mpr (.inr ⟨backward, found⟩)⟩
    · obtain ⟨key, target, leads⟩ :=
        Classical.not_not.mp fun alone => forward (once.mpr alone)
      have found := foreignKey?_eq_some_iff.mpr ⟨key, target, leads, rfl⟩
      have silent := foreignKey?_eq_none_iff.mpr forward
      exact ⟨_, declared_eq_ok_iff.mpr (.inr ⟨silent, found⟩),
        declared_eq_ok_iff.mpr (.inl found)⟩

end RelationLookup

/-- A copy of the employees. -/
def Source.staff : Source := .aliased ⟨⟨⟨1⟩, none⟩, .table .employees⟩

/-- A member of the copy works in the department. -/
def Expr.staffed : Expr :=
  .binary .eq
    (.field ((Field.ofIndex .employees ⟨1, Nat.one_lt_two⟩).rebind ⟨⟨1⟩, none⟩))
    (.field (.ofIndex .departments ⟨0, Nat.one_pos⟩))

namespace RelationLookup

theorem declared_either_way_staff :
    (Source.staff.Refers (.table .departments) ↔
      ¬ (Source.table .departments).Refers .staff) ∧
    declared .staff (.table .departments) = .ok .staffed ∧
    declared (.table .departments) .staff = .ok .staffed := by
  have backward : ¬ (Source.table .departments).Refers .staff :=
    foreignKey?_eq_none_iff.mp rfl
  have forward : Source.staff.Refers (.table .departments) := by
    obtain ⟨key, target, leads, _⟩ :=
      foreignKey?_eq_some_iff.mp
        (rfl : foreignKey? .staff (.table .departments) = some .staffed)
    exact ⟨key, target, leads⟩
  have once : Source.staff.Refers (.table .departments) ↔
      ¬ (Source.table .departments).Refers .staff :=
    ⟨fun _ => backward, fun _ => forward⟩
  obtain ⟨_, _, agree⟩ := declared_either_way .staff (.table .departments)
  obtain ⟨predicate, first, second⟩ := agree once
  cases first
  exact ⟨once, rfl, second⟩

end RelationLookup

end SqlWeave
