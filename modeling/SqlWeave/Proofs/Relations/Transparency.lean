import SqlWeave.Query.Relation

/-!
# Columns and relations seen through aliases

A table is asked for a column by its label.  Through an alias a column also
answers to its name in the database, and the first column that answers is
taken.  So a label may be misread as the name of another column.  A column is
found through an alias as it is in the table exactly if its label is not
misread, and two tables are related through aliases as they are by themselves
exactly if no foreign key leads to a label that is (`Alias.transparent_iff`).
-/

namespace SqlWeave

namespace Field

variable {table other : Table} {left right : Field}

theorem mem_fields_iff :
    left ∈ table.fields ↔ ∃ index, left = ofIndex table index := by
  rw [Table.fields, List.mem_map]
  constructor
  · rintro ⟨index, _, rfl⟩
    exact ⟨index, rfl⟩
  · rintro ⟨index, rfl⟩
    exact ⟨index, List.mem_finRange index, rfl⟩

/-- Fields of tables are not bound yet, so binding them loses nothing. -/
theorem eq_of_rebind {ref ref' : AliasRef} (first : left ∈ table.fields)
    (second : right ∈ other.fields)
    (same : left.rebind ref = right.rebind ref') :
    table = other ∧ ref = ref' ∧ left = right := by
  obtain ⟨index, rfl⟩ := mem_fields_iff.mp first
  obtain ⟨index', rfl⟩ := mem_fields_iff.mp second
  cases same
  exact ⟨rfl, rfl, rfl⟩

end Field

/-! ## Columns -/

namespace Table

/-- The first column that has the label, or has it as its name. -/
def fieldNamed? (table : Table) (label : String) : Option Field :=
  table.fields.find? fun field => field.label == label || field.name == label

/-- Some column has the label or has it as its name. -/
def Knows (table : Table) (label : String) : Prop :=
  ∃ field ∈ table.fields, field.label = label ∨ field.name = label

/-- A column has the label as its name, and neither it nor one in front of it has
the label. -/
def Misreads (table : Table) (label : String) : Prop :=
  ∃ before field after, table.fields = before ++ field :: after ∧
    field.name = label ∧ ∀ earlier ∈ before ++ [field], earlier.label ≠ label

variable {table : Table} {label : String}

theorem field?_eq_find? (table : Table) (label : String) :
    table.field? label =
      table.fields.find? fun field => field.label == label := by
  rw [field?, fields, List.find?_map]
  congr 1
  cases found : table.indexOf? label with
  | none =>
      symm
      rw [List.find?_eq_none]
      intro index _
      exact List.findFinIdx?_eq_none_iff.mp found _ (List.get_mem _ index)
  | some index =>
      obtain ⟨holds, earlier⟩ := List.findFinIdx?_eq_some_iff.mp found
      symm
      rw [List.find?_eq_some_iff_getElem]
      refine ⟨holds, index, by simp, by simp, ?_⟩
      intro position before
      rw [Bool.not_eq_true', Bool.eq_false_iff]
      have inside : position < table.columns.length :=
        Nat.lt_trans before index.isLt
      simpa [Field.label, Field.column, Field.ofIndex] using
        earlier ⟨position, inside⟩ before

theorem mem_fields_of_field? {field : Field}
    (found : table.field? label = some field) : field ∈ table.fields := by
  rw [field?_eq_find?] at found
  exact List.mem_of_find?_eq_some found

theorem mem_fields_of_fieldNamed? {field : Field}
    (found : table.fieldNamed? label = some field) : field ∈ table.fields :=
  List.mem_of_find?_eq_some found

theorem fieldNamed?_eq_none_iff :
    table.fieldNamed? label = none ↔ ¬ table.Knows label := by
  simp [fieldNamed?, Knows]

/-- What answers to a misread label is a column with another label. -/
theorem misreads_iff : table.Misreads label ↔
    ∃ field, table.fieldNamed? label = some field ∧ field.label ≠ label := by
  constructor
  · rintro ⟨before, field, after, split, name, labels⟩
    have answered : ((before ++ [field]).find? fun field =>
        field.label == label || field.name == label).isSome = true := by
      rw [List.find?_isSome]
      exact ⟨field, by simp, by simp [name]⟩
    obtain ⟨first, found⟩ := Option.isSome_iff_exists.mp answered
    refine ⟨first, ?_, labels first (List.mem_of_find?_eq_some found)⟩
    rw [fieldNamed?, split, List.append_cons, List.find?_append, found]
    rfl
  · rintro ⟨field, found, differs⟩
    obtain ⟨answers, before, after, split, silent⟩ :=
      List.find?_eq_some_iff_append.mp found
    rw [Bool.or_eq_true, beq_iff_eq, beq_iff_eq] at answers
    refine ⟨before, field, after, split, answers.resolve_left differs, ?_⟩
    intro earlier member
    rcases List.mem_append.mp member with front | last
    · have both := silent earlier front
      rw [Bool.not_eq_true', Bool.or_eq_false_iff] at both
      exact beq_eq_false_iff_ne.mp both.1
    · rw [List.mem_singleton.mp last]
      exact differs

/-- What answers first and has the label is the first column with it. -/
theorem field?_of_fieldNamed? {field : Field}
    (found : table.fieldNamed? label = some field)
    (same : field.label = label) : table.field? label = some field := by
  obtain ⟨_, before, after, split, silent⟩ :=
    List.find?_eq_some_iff_append.mp found
  rw [field?_eq_find?, List.find?_eq_some_iff_append]
  refine ⟨beq_iff_eq.mpr same, before, after, split, ?_⟩
  intro earlier front
  have both := silent earlier front
  rw [Bool.not_eq_true', Bool.or_eq_false_iff] at both
  rw [both.1]
  rfl

theorem label_of_field? {field : Field}
    (found : table.field? label = some field) : field.label = label := by
  rw [field?_eq_find?] at found
  have holds := List.find?_some found
  exact beq_iff_eq.mp holds

theorem field?_eq_none_of_not_knows (unknown : ¬ table.Knows label) :
    table.field? label = none := by
  rw [field?_eq_find?, List.find?_eq_none]
  intro field member same
  exact unknown ⟨field, member, .inl (beq_iff_eq.mp same)⟩

/-- A label leads to the same column either way unless it is misread. -/
theorem fieldNamed?_eq_field?_iff :
    table.fieldNamed? label = table.field? label ↔ ¬ table.Misreads label := by
  rw [misreads_iff]
  constructor
  · rintro same ⟨field, found, differs⟩
    rw [same] at found
    exact differs (label_of_field? found)
  · intro faithful
    cases found : table.fieldNamed? label with
    | none =>
        have unknown := fieldNamed?_eq_none_iff.mp found
        exact (field?_eq_none_of_not_knows unknown).symm
    | some field =>
        have same : field.label = label :=
          Decidable.byContradiction fun differs =>
            faithful ⟨field, found, differs⟩
        exact (field?_of_fieldNamed? found same).symm

end Table

/-- Through an alias a column is found by its label or its name. -/
theorem Alias.field?_table (ref : AliasRef) (table : Table) (label : String) :
    (Alias.mk ref (.table table)).field? label =
      (table.fieldNamed? label).map fun field => field.rebind ref := rfl

/-! ## Foreign keys -/

namespace Field

/-- The column is a foreign key to the column of `referred` with this label. -/
def IsKeyTo (referred : Table) (label : String) (key : Field) : Prop :=
  key.column.references = some ⟨referred.id, label⟩

/-- The field and the column of `referred` that it leads to as a foreign key, if
columns are looked for by `find`. -/
def follow? (find : Table → String → Option Field) (referred : Table)
    (key : Field) : Option (Field × Field) := do
  let reference ← key.column.references
  if reference.table == referred.id then
    (find referred reference.label).map fun target => (key, target)
  else none

variable {find : Table → String → Option Field} {referred : Table}
variable {key target : Field} {label : String}

theorem follow?_of_isKeyTo (isKey : key.IsKeyTo referred label) :
    key.follow? find referred =
      (find referred label).map fun target => (key, target) := by
  have references : key.column.references = some ⟨referred.id, label⟩ := isKey
  rw [follow?, references]
  simp

theorem follow?_eq_some_iff {pair : Field × Field} :
    key.follow? find referred = some pair ↔ pair.1 = key ∧
      ∃ label, key.IsKeyTo referred label ∧
        find referred label = some pair.2 := by
  constructor
  · intro followed
    cases references : key.column.references with
    | none => simp [follow?, references] at followed
    | some reference =>
        obtain ⟨table, label⟩ := reference
        by_cases same : table = referred.id
        · rw [same] at references
          rw [follow?_of_isKeyTo references, Option.map_eq_some_iff] at followed
          obtain ⟨target, found, rfl⟩ := followed
          exact ⟨rfl, label, references, found⟩
        · simp [follow?, references, same] at followed
  · rintro ⟨rfl, label, isKey, found⟩
    rw [follow?_of_isKeyTo isKey, found]
    rfl

theorem follow?_eq_none_iff :
    key.follow? find referred = none ↔
      ∀ label, key.IsKeyTo referred label → find referred label = none := by
  constructor
  · intro stops label isKey
    rw [follow?_of_isKeyTo isKey, Option.map_eq_none_iff] at stops
    exact stops
  · intro stops
    rw [Option.eq_none_iff_forall_ne_some]
    intro pair followed
    obtain ⟨_, label, isKey, found⟩ := follow?_eq_some_iff.mp followed
    rw [stops label isKey] at found
    cases found

end Field

namespace Table

/-- The first foreign key to `referred` that leads to a column, with that
column, if columns are looked for by `find`. -/
def keyTo? (find : Table → String → Option Field)
    (referring referred : Table) : Option (Field × Field) :=
  referring.fields.findSome? (Field.follow? find referred)

/-- Some foreign key to `referred` leads to a column, if names count as well. -/
def Refers (referring referred : Table) : Prop :=
  ∃ key ∈ referring.fields, ∃ label,
    key.IsKeyTo referred label ∧ referred.Knows label

/-- The first foreign key to `referred` that leads to a column, if names count as
well, has a label that is misread. -/
def Misleads (referring referred : Table) : Prop :=
  ∃ before key after label, referring.fields = before ++ key :: after ∧
    key.IsKeyTo referred label ∧ referred.Misreads label ∧
    ∀ earlier ∈ before, ∀ other, earlier.IsKeyTo referred other →
      ¬ referred.Knows other

variable {referring referred : Table}

theorem keyTo?_fieldNamed?_eq_none_iff :
    referring.keyTo? fieldNamed? referred = none ↔
      ¬ referring.Refers referred := by
  rw [keyTo?, List.findSome?_eq_none_iff]
  constructor
  · rintro silent ⟨key, member, label, isKey, known⟩
    have unknown := Field.follow?_eq_none_iff.mp (silent key member) label isKey
    exact fieldNamed?_eq_none_iff.mp unknown known
  · intro alone key member
    rw [Field.follow?_eq_none_iff]
    intro label isKey
    rw [fieldNamed?_eq_none_iff]
    intro known
    exact alone ⟨key, member, label, isKey, known⟩

/-- A key that leads nowhere by label or name leads nowhere by label. -/
theorem follow?_field?_eq_none {key : Field}
    (stops : key.follow? fieldNamed? referred = none) :
    key.follow? field? referred = none := by
  rw [Field.follow?_eq_none_iff] at stops ⊢
  intro label isKey
  exact field?_eq_none_of_not_knows
    (fieldNamed?_eq_none_iff.mp (stops label isKey))

/-- No key leads anywhere by label if none does by label or name. -/
theorem keyTo?_field?_eq_none
    (silent : referring.keyTo? fieldNamed? referred = none) :
    referring.keyTo? field? referred = none := by
  rw [keyTo?, List.findSome?_eq_none_iff] at silent ⊢
  intro key member
  exact follow?_field?_eq_none (silent key member)

/-- The same key is taken whether or not names count, unless it misleads. -/
theorem keyTo?_eq_iff :
    referring.keyTo? fieldNamed? referred = referring.keyTo? field? referred ↔
      ¬ referring.Misleads referred := by
  constructor
  · rintro same ⟨before, key, after, label, split, isKey, misread, silent⟩
    obtain ⟨target, found, differs⟩ := misreads_iff.mp misread
    have loose : referring.keyTo? fieldNamed? referred = some (key, target) := by
      rw [keyTo?, List.findSome?_eq_some_iff]
      refine ⟨before, key, after, split, ?_, ?_⟩
      · rw [Field.follow?_of_isKeyTo isKey, found]
        rfl
      · intro earlier front
        rw [Field.follow?_eq_none_iff]
        intro other isKey'
        exact fieldNamed?_eq_none_iff.mpr (silent earlier front other isKey')
    rw [loose] at same
    obtain ⟨_, other, _, _, followed, _⟩ :=
      List.findSome?_eq_some_iff.mp same.symm
    obtain ⟨rfl, label', isKey', found'⟩ :=
      Field.follow?_eq_some_iff.mp followed
    have labels : some (Reference.mk referred.id label') =
      some ⟨referred.id, label⟩ := isKey'.symm.trans isKey
    cases labels
    exact differs (label_of_field? found')
  · intro faithful
    cases loose : referring.keyTo? fieldNamed? referred with
    | none => exact (keyTo?_field?_eq_none loose).symm
    | some pair =>
        symm
        rw [keyTo?, List.findSome?_eq_some_iff] at loose ⊢
        obtain ⟨before, key, after, split, followed, silent⟩ := loose
        refine ⟨before, key, after, split, ?_, ?_⟩
        · rw [Field.follow?_eq_some_iff] at followed ⊢
          obtain ⟨same, label, isKey, found⟩ := followed
          refine ⟨same, label, isKey, ?_⟩
          rw [← found]
          symm
          rw [fieldNamed?_eq_field?_iff]
          intro misread
          apply faithful
          refine ⟨before, key, after, label, split, isKey, misread, ?_⟩
          intro earlier front other isKey'
          have stops := Field.follow?_eq_none_iff.mp (silent earlier front)
          exact fieldNamed?_eq_none_iff.mp (stops other isKey')
        · intro earlier front
          exact follow?_field?_eq_none (silent earlier front)

end Table

/-! ## Relations -/

/-- A foreign key between two tables and the column that it leads to. -/
inductive Relation where
  /-- The key is a column of the left table. -/
  | forward (key target : Field)
  /-- The key is a column of the right table. -/
  | backward (key target : Field)

namespace Relation

/-- The key is equal to the column that it leads to. -/
def predicate : Relation → Expr
  | forward key target | backward key target =>
      Expr.equals (.field key) (.field target)

/-- The relation with the columns of each table seen through an alias. -/
def seenThrough (left right : AliasRef) : Relation → Relation
  | forward key target => forward (key.rebind left) (target.rebind right)
  | backward key target => backward (key.rebind right) (target.rebind left)

end Relation

namespace Table

/-- The relation between two tables by the foreign keys that they declare, if
columns are looked for by `find`. -/
def relationBy? (find : Table → String → Option Field) (left right : Table) :
    Option Relation :=
  ((left.keyTo? find right).map fun pair => .forward pair.1 pair.2).or
    ((right.keyTo? find left).map fun pair => .backward pair.1 pair.2)

/-- The relation between two tables by the foreign keys that they declare. -/
def relation? (left right : Table) : Option Relation :=
  relationBy? field? left right

end Table

namespace RelationLookup

/-- The foreign keys of a source are those of the table behind it, and both of
their columns are seen through the sources. -/
theorem foreignKey?_eq {referring referred : Source} {table target : Table}
    {find : Table → String → Option Field} (seen seenTarget : Field → Field)
    (fields : referring.fields = table.fields.map seen)
    (columns : ∀ key, (seen key).column = key.column)
    (behind : referred.table? = some target)
    (found : ∀ label,
      referred.field? label = (find target label).map seenTarget) :
    foreignKey? referring referred =
      (table.keyTo? find target).map fun pair =>
        Expr.equals (.field (seen pair.1)) (.field (seenTarget pair.2)) := by
  rw [foreignKey?, behind, fields, Option.bind_eq_bind, Option.bind_some,
    List.findSome?_map, Table.keyTo?, List.map_findSome?]
  congr 1
  funext key
  rw [Function.comp_apply, Function.comp_apply, Field.follow?, columns]
  cases key.column.references with
  | none => rfl
  | some reference =>
      simp only [Option.bind_eq_bind, Option.bind_some, found]
      by_cases same : (reference.table == target.id) = true
      · rw [if_pos same, if_pos same]
        cases find target reference.label with
        | none => rfl
        | some column => rfl
      · rw [if_neg same, if_neg same]
        rfl

theorem foreignKey?_table (referring referred : Table) :
    foreignKey? (.table referring) (.table referred) =
      (referring.keyTo? Table.field? referred).map fun pair =>
        Expr.equals (.field pair.1) (.field pair.2) := by
  apply foreignKey?_eq id id
  · exact (List.map_id _).symm
  · intro key
    rfl
  · rfl
  · intro label
    rw [Option.map_id, id, Source.field?]

theorem foreignKey?_aliased (referring referred : Table)
    (left right : AliasRef) :
    foreignKey? (.aliased ⟨left, .table referring⟩)
        (.aliased ⟨right, .table referred⟩) =
      (referring.keyTo? Table.fieldNamed? referred).map fun pair =>
        Expr.equals (.field (pair.1.rebind left))
          (.field (pair.2.rebind right)) := by
  apply foreignKey?_eq (fun key => key.rebind left)
    (fun target => target.rebind right)
  · rfl
  · intro key
    rfl
  · rfl
  · exact Alias.field?_table right referred

/-- Declared relations of tables are those of their foreign keys. -/
theorem declared_table (left right : Table) :
    (declared (.table left) (.table right)).toOption =
      (left.relation? right).map Relation.predicate := by
  rw [declared, foreignKey?_table, foreignKey?_table, Table.relation?,
    Table.relationBy?]
  cases left.keyTo? Table.field? right with
  | some pair => rfl
  | none =>
      cases right.keyTo? Table.field? left with
      | some pair => rfl
      | none => rfl

/-- Declared relations of aliases are those that names count for as well. -/
theorem declared_aliased (left right : Table) (ref ref' : AliasRef) :
    (declared (.aliased ⟨ref, .table left⟩)
        (.aliased ⟨ref', .table right⟩)).toOption =
      (Table.relationBy? Table.fieldNamed? left right).map fun relation =>
        (relation.seenThrough ref ref').predicate := by
  rw [declared, foreignKey?_aliased, foreignKey?_aliased, Table.relationBy?]
  cases left.keyTo? Table.fieldNamed? right with
  | some pair => rfl
  | none =>
      cases right.keyTo? Table.fieldNamed? left with
      | some pair => rfl
      | none => rfl

end RelationLookup

namespace Expr

theorem equals_field_injective {first second first' second' : Field}
    (same : equals (.field first) (.field second) =
      equals (.field first') (.field second')) :
    first = first' ∧ second = second' := by
  simpa [equals, isNull] using same

end Expr

namespace Table

variable {find find' : Table → String → Option Field} {left right : Table}
variable {ref ref' : AliasRef} {pair pair' : Field × Field}

/-- The columns that are looked for by `find` are columns of the table. -/
def FindsOwn (find : Table → String → Option Field) : Prop :=
  ∀ table label field, find table label = some field → field ∈ table.fields

theorem findsOwn_field? : FindsOwn field? :=
  fun _ _ _ => mem_fields_of_field?

theorem findsOwn_fieldNamed? : FindsOwn fieldNamed? :=
  fun _ _ _ => mem_fields_of_fieldNamed?

theorem mem_fields_of_keyTo? (own : FindsOwn find)
    (found : left.keyTo? find right = some pair) :
    pair.1 ∈ left.fields ∧ pair.2 ∈ right.fields := by
  obtain ⟨before, key, after, split, followed, _⟩ :=
    List.findSome?_eq_some_iff.mp found
  obtain ⟨rfl, label, _, target⟩ := Field.follow?_eq_some_iff.mp followed
  constructor
  · rw [split]
    exact List.mem_append_right _ List.mem_cons_self
  · exact own right label pair.2 target

/-- Foreign keys between the same tables that give the same predicate are the
same. -/
theorem eq_of_predicate_eq (own : FindsOwn find) (own' : FindsOwn find')
    (found : left.keyTo? find right = some pair)
    (found' : left.keyTo? find' right = some pair')
    (same : Expr.equals (.field (pair.1.rebind ref))
        (.field (pair.2.rebind ref')) =
      Expr.equals (.field (pair'.1.rebind ref))
        (.field (pair'.2.rebind ref'))) : pair = pair' := by
  obtain ⟨key, target⟩ := mem_fields_of_keyTo? own found
  obtain ⟨key', target'⟩ := mem_fields_of_keyTo? own' found'
  obtain ⟨keys, targets⟩ := Expr.equals_field_injective same
  apply Prod.ext
  · exact (Field.eq_of_rebind key key' keys).2.2
  · exact (Field.eq_of_rebind target target' targets).2.2

/-- A key of the left table and one of the right table give the same predicate
only if both tables and both aliases are the same. -/
theorem eq_of_predicate_eq_backward (own : FindsOwn find)
    (own' : FindsOwn find') (found : left.keyTo? find right = some pair)
    (found' : right.keyTo? find' left = some pair')
    (same : Expr.equals (.field (pair.1.rebind ref))
        (.field (pair.2.rebind ref')) =
      Expr.equals (.field (pair'.1.rebind ref'))
        (.field (pair'.2.rebind ref))) : left = right := by
  have key := (mem_fields_of_keyTo? own found).1
  have key' := (mem_fields_of_keyTo? own' found').1
  exact (Field.eq_of_rebind key key' (Expr.equals_field_injective same).1).1

/-- Equal relations go by the same key of the left table, or by none. -/
theorem keyTo?_eq_of_relationBy?_eq
    (same : ((relationBy? fieldNamed? left right).map fun relation =>
        (relation.seenThrough ref ref').predicate) =
      (left.relation? right).map fun relation =>
        (relation.seenThrough ref ref').predicate) :
    left.keyTo? fieldNamed? right = left.keyTo? field? right := by
  rw [relation?, relationBy?, relationBy?] at same
  cases loose : left.keyTo? fieldNamed? right with
  | none => exact (keyTo?_field?_eq_none loose).symm
  | some pair =>
      rw [loose] at same
      cases strict : left.keyTo? field? right with
      | some pair' =>
          rw [strict] at same
          rw [eq_of_predicate_eq findsOwn_fieldNamed? findsOwn_field? loose
            strict (Option.some.inj same)]
      | none =>
          rw [strict] at same
          cases backward : right.keyTo? field? left with
          | none =>
              rw [backward] at same
              cases same
          | some pair' =>
              -- Then both tables are the same, and so are both directions.
              rw [backward] at same
              have tables := eq_of_predicate_eq_backward findsOwn_fieldNamed?
                findsOwn_field? loose backward (Option.some.inj same)
              subst tables
              rw [strict] at backward
              cases backward

/-- The relation through aliases is that of the tables exactly if no foreign key
that tells it misleads. -/
theorem relationBy?_eq_iff (left right : Table) (ref ref' : AliasRef) :
    ((relationBy? fieldNamed? left right).map fun relation =>
        (relation.seenThrough ref ref').predicate) =
      ((left.relation? right).map fun relation =>
        (relation.seenThrough ref ref').predicate) ↔
      ¬ left.Misleads right ∧
        (left.Refers right ∨ ¬ right.Misleads left) := by
  rw [← keyTo?_eq_iff, ← keyTo?_eq_iff]
  constructor
  · intro same
    have forward := keyTo?_eq_of_relationBy?_eq same
    refine ⟨forward, ?_⟩
    by_cases refers : left.Refers right
    · exact .inl refers
    · right
      have silent := keyTo?_fieldNamed?_eq_none_iff.mpr refers
      rw [relation?, relationBy?, relationBy?, ← forward, silent] at same
      cases loose : right.keyTo? fieldNamed? left with
      | none => exact (keyTo?_field?_eq_none loose).symm
      | some pair =>
          rw [loose] at same
          cases strict : right.keyTo? field? left with
          | none =>
              rw [strict] at same
              cases same
          | some pair' =>
              rw [strict] at same
              rw [eq_of_predicate_eq findsOwn_fieldNamed? findsOwn_field? loose
                strict (Option.some.inj same)]
  · rintro ⟨forward, agrees⟩
    rw [relation?, relationBy?, relationBy?, forward]
    cases strict : left.keyTo? field? right with
    | some pair => rfl
    | none =>
        have lonely : ¬ left.Refers right := by
          rw [← keyTo?_fieldNamed?_eq_none_iff, forward]
          exact strict
        rw [agrees.resolve_left lonely]

end Table

namespace Alias

theorem field?_eq_iff (ref : AliasRef) (table : Table) (label : String) :
    (Alias.mk ref (.table table)).field? label =
        (table.field? label).map (fun field => field.rebind ref) ↔
      ¬ table.Misreads label := by
  rw [field?_table, ← Table.fieldNamed?_eq_field?_iff]
  constructor
  · intro same
    cases loose : table.fieldNamed? label with
    | none =>
        have unknown := Table.fieldNamed?_eq_none_iff.mp loose
        exact (Table.field?_eq_none_of_not_knows unknown).symm
    | some field =>
        rw [loose] at same
        cases strict : table.field? label with
        | none =>
            rw [strict] at same
            cases same
        | some field' =>
            rw [strict] at same
            have fields := Field.eq_of_rebind
              (Table.mem_fields_of_fieldNamed? loose)
              (Table.mem_fields_of_field? strict) (Option.some.inj same)
            rw [fields.2.2]
  · intro same
    rw [same]

/-- An alias of a table leads to the column that the table has under a label
exactly if the label is not misread.  Two aliases are related as the tables are
exactly if no foreign key that tells the relation misleads. -/
theorem transparent_iff (left right : Table) (ref ref' : AliasRef) :
    (∀ label, (Alias.mk ref (.table left)).field? label =
        (left.field? label).map (fun field => field.rebind ref) ↔
      ¬ left.Misreads label) ∧
    (RelationLookup.declared (.table left) (.table right)).toOption =
      (left.relation? right).map Relation.predicate ∧
    ((RelationLookup.declared (.aliased ⟨ref, .table left⟩)
        (.aliased ⟨ref', .table right⟩)).toOption =
      ((left.relation? right).map fun relation =>
        (relation.seenThrough ref ref').predicate) ↔
      ¬ left.Misleads right ∧
        (left.Refers right ∨ ¬ right.Misleads left)) := by
  refine ⟨field?_eq_iff ref left, RelationLookup.declared_table left right, ?_⟩
  rw [RelationLookup.declared_aliased]
  exact Table.relationBy?_eq_iff left right ref ref'

/-- A column named in the database as another one is labelled. -/
def crossed : Table :=
  ⟨⟨1⟩, none, "person",
    [⟨"nick", some "name", .int, false, false, false, false, none, none⟩,
      ⟨"name", some "full_name", .int, false, false, false, false, none,
        none⟩]⟩

/-- A table with a foreign key to that label. -/
def owned : Table :=
  ⟨⟨2⟩, none, "team",
    [⟨"owner", none, .int, false, false, false, false,
      some ⟨crossed.id, "name"⟩, none⟩]⟩

theorem crossed_misreads : crossed.Misreads "name" := by
  refine ⟨[], .ofIndex crossed ⟨0, by decide⟩,
    [.ofIndex crossed ⟨1, by decide⟩], rfl, rfl, ?_⟩
  intro earlier member
  rw [List.nil_append, List.mem_singleton] at member
  rw [member]
  decide

theorem owned_misleads : owned.Misleads crossed := by
  refine ⟨[], .ofIndex owned ⟨0, by decide⟩, [], "name", rfl, rfl,
    crossed_misreads, ?_⟩
  intro earlier member
  cases member

/-- An alias is not transparent to each label of its table, nor to each
relation. -/
theorem not_forall_transparent :
    (¬ ∀ (table : Table) (ref : AliasRef) (label : String),
      (table.field? label).isSome = true →
      (Alias.mk ref (.table table)).field? label =
        (table.field? label).map fun field => field.rebind ref) ∧
    ¬ ∀ (left right : Table) (ref ref' : AliasRef),
      (RelationLookup.declared (.aliased ⟨ref, .table left⟩)
          (.aliased ⟨ref', .table right⟩)).toOption =
        (left.relation? right).map fun relation =>
          (relation.seenThrough ref ref').predicate := by
  constructor
  · intro transparent
    have same := transparent crossed ⟨⟨1⟩, some "p"⟩ "name" rfl
    exact (field?_eq_iff _ _ _).mp same crossed_misreads
  · intro transparent
    have same := transparent owned crossed ⟨⟨2⟩, some "t"⟩ ⟨⟨1⟩, some "p"⟩
    rw [RelationLookup.declared_aliased] at same
    exact ((Table.relationBy?_eq_iff _ _ _ _).mp same).1 owned_misleads

end Alias

end SqlWeave
