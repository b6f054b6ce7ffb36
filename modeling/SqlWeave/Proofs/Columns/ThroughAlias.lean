import SqlWeave.Proofs.Alias.Capture
import SqlWeave.Proofs.Alias.Qualifiers

/-!
# Columns seen through an alias

A column that is obtained through an alias is qualified by the alias, whatever
qualified it before.  What an alias renames may hold columns of one name that
only their qualifiers tell apart: then they are written alike through the alias,
and asking the alias for that name has several answers
(`Alias.keepsApart_iff`).
-/

namespace SqlWeave

namespace Context

/-- What qualifies a column. -/
def qualifierOf (context : Context) (field : Field) :
    Except QueryError Path :=
  match field.binding with
  | some ref => (context.nameOfRef ref).map fun name => ⟨[name]⟩
  | none => .ok (context.tablePath field.table)

/-- Both columns have qualifiers, and these differ. -/
def TellsApart (context : Context) (first second : Field) : Prop :=
  ∃ path path', context.qualifierOf first = .ok path ∧
    context.qualifierOf second = .ok path' ∧ path ≠ path'

theorem fieldPath_eq (context : Context) (field : Field) :
    context.fieldPath field =
      (context.qualifierOf field).map fun path => path.push field.name := by
  rw [fieldPath, qualifierOf]
  cases field.binding with
  | none => rfl
  | some ref =>
      cases resolved : context.nameOfRef ref <;>
        simp [resolved, bind, Except.bind, pure, Except.pure, Except.map,
          Path.push]

end Context

/-- A column is written as its name behind its qualifier. -/
theorem Field.script_eq_name_iff {context : Context}
    (qualified : context.bareColumns = false) (field : Field) (path : Path) :
    field.script context = Script.name path ↔
      ∃ qualifier, context.qualifierOf field = .ok qualifier ∧
        path = qualifier.push field.name := by
  rw [script, qualified, if_neg Bool.false_ne_true, context.fieldPath_eq]
  cases context.qualifierOf field with
  | ok qualifier => simp [Except.map, Script.name, eq_comm]
  | error error => simp [Except.map, Script.name, Script.fail]

theorem Field.rebind_name (field : Field) (ref : AliasRef) :
    (field.rebind ref).name = field.name := rfl

theorem Path.push_inj {first second : Path} {name name' : String} :
    first.push name = second.push name' ↔ first = second ∧ name = name' := by
  obtain ⟨segments⟩ := first
  obtain ⟨segments'⟩ := second
  simp [push]

/-! ## Columns of sources -/

theorem Table.binding_of_mem_fields {table : Table} {field : Field}
    (member : field ∈ table.fields) :
    field.binding = none ∧ field.table = table := by
  obtain ⟨index, _, rfl⟩ := List.mem_map.mp member
  exact ⟨rfl, rfl⟩

/-- The columns of a source are qualified as the source is. -/
theorem Source.qualifierOf_of_mem_fields (context : Context) {source : Source}
    {field : Field} (member : field ∈ source.fields) :
    context.qualifierOf field = source.qualifier context := by
  cases source with
  | table table =>
      obtain ⟨unbound, same⟩ := Table.binding_of_mem_fields member
      rw [Context.qualifierOf, unbound, same]
      rfl
  | aliased renamed =>
      obtain ⟨ref, target⟩ := renamed
      obtain ⟨inner, _, rfl⟩ := List.mem_map.mp member
      rfl

mutual

theorem Chain.mem_fields_iff {field : Field} : (chain : Chain) →
    (field ∈ chain.fields ↔ ∃ source ∈ chain.sources, field ∈ source.fields)
  | .source source => by simp [Chain.fields, Chain.sources]
  | .join join => by
      rw [Chain.fields, Chain.sources]
      exact Join.mem_fields_iff join

theorem Join.mem_fields_iff {field : Field} : (join : Join) →
    (field ∈ join.fields ↔ ∃ source ∈ join.sources, field ∈ source.fields)
  | ⟨left, kind, right, predicate⟩ => by
      rw [Join.fields, Join.sources, List.mem_append,
        Chain.mem_fields_iff left]
      simp [or_and_right, exists_or]

end

/-! ## Columns behind an alias -/

/-- Where the columns of a target are written without the alias: those of a
sub-query in its own scope, and those of a join next to it. -/
def AliasTarget.within (context : Context) : AliasTarget → Context
  | .table _ => context
  | .join _ => context
  | .query select => select.scope context

/-- Two sources of a join with different qualifiers have columns of one name, or
a sub-query selects two columns of one name with different qualifiers. -/
def AliasTarget.Clashes (context : Context) : AliasTarget → Prop
  | .table _ => False
  | .join joined =>
      ∃ left ∈ joined.sources, ∃ right ∈ joined.sources,
        (∃ path path', left.qualifier context = .ok path ∧
          right.qualifier context = .ok path' ∧ path ≠ path') ∧
        ∃ field ∈ left.fields, ∃ other ∈ right.fields, field.name = other.name
  | .query select =>
      ∃ field ∈ select.projection, ∃ other ∈ select.projection,
        (select.scope context).TellsApart field other ∧ field.name = other.name

theorem Table.not_tellsApart (context : Context) {table : Table}
    {field other : Field} (member : field ∈ table.fields)
    (member' : other ∈ table.fields) : ¬ context.TellsApart field other := by
  rintro ⟨path, path', found, found', differ⟩
  have same := @Source.qualifierOf_of_mem_fields context (.table table) _ member
  have same' :=
    @Source.qualifierOf_of_mem_fields context (.table table) _ member'
  rw [same] at found
  rw [same', found] at found'
  exact differ (Except.ok.inj found')

/-- The qualifiers that clash are those of columns. -/
theorem AliasTarget.clashes_iff (context : Context) (target : AliasTarget) :
    target.Clashes context ↔
      ∃ field ∈ target.fields, ∃ other ∈ target.fields,
        (target.within context).TellsApart field other ∧
          field.name = other.name := by
  cases target with
  | table table =>
      refine iff_of_false id ?_
      rintro ⟨field, member, other, member', apart, _⟩
      exact table.not_tellsApart context member member' apart
  | join join =>
      rw [Clashes, fields, within]
      constructor
      · rintro ⟨left, held, right, held', ⟨path, path', found, found', differ⟩,
          field, member, other, member', same⟩
        refine ⟨field, join.mem_fields_iff.mpr ⟨left, held, member⟩, other,
          join.mem_fields_iff.mpr ⟨right, held', member'⟩,
          ⟨path, path', ?_, ?_, differ⟩, same⟩
        · rw [Source.qualifierOf_of_mem_fields context member, found]
        · rw [Source.qualifierOf_of_mem_fields context member', found']
      · rintro ⟨field, member, other, member',
          ⟨path, path', found, found', differ⟩, same⟩
        obtain ⟨left, held, inside⟩ := join.mem_fields_iff.mp member
        obtain ⟨right, held', inside'⟩ := join.mem_fields_iff.mp member'
        rw [Source.qualifierOf_of_mem_fields context inside] at found
        rw [Source.qualifierOf_of_mem_fields context inside'] at found'
        exact ⟨left, held, right, held', ⟨path, path', found, found', differ⟩,
          field, inside, other, inside', same⟩
  | query select => exact Iff.rfl

namespace Alias

/-- Both are columns behind the alias, and they are written differently
there. -/
def Differ (context : Context) (renamed : Alias) (first second : Field) :
    Prop :=
  first ∈ renamed.target.fields ∧ second ∈ renamed.target.fields ∧
    ∃ path path',
      first.script (renamed.target.within context) = Script.name path ∧
      second.script (renamed.target.within context) = Script.name path' ∧
      path ≠ path'

/-- Columns that are written differently behind the alias are written differently
through it. -/
def KeepsApart (context : Context) (renamed : Alias) : Prop :=
  ∀ first second, renamed.Differ context first second →
    (first.rebind renamed.ref).script context ≠
      (second.rebind renamed.ref).script context

/-- Columns behind the alias that are written differently go by one name. -/
def Chooses (context : Context) (renamed : Alias) (name : String) : Prop :=
  ∃ first second, renamed.Differ context first second ∧
    first.name = name ∧ second.name = name

variable {context : Context} {renamed : Alias} {name : String}

theorem bareColumns_within (context : Context) (target : AliasTarget) :
    (target.within context).bareColumns = context.bareColumns := by
  cases target <;> rfl

/-- Through the alias nothing but the name of a column is left of it. -/
theorem script_rebind_eq_iff
    (named : context.nameOfRef renamed.ref = .ok name) (first second : Field) :
    (first.rebind renamed.ref).script context =
        (second.rebind renamed.ref).script context ↔
      first.name = second.name := by
  cases bare : context.bareColumns with
  | true => simp [Field.script, bare, Script.name, Field.rebind_name]
  | false =>
      have qualified (field : Field) :
          (field.rebind renamed.ref).script context =
            Script.name ⟨[name, field.name]⟩ := by
        apply (Field.script_eq_name_iff bare _ _).mpr
        refine ⟨⟨[name]⟩, ?_, rfl⟩
        simp [Context.qualifierOf, Field.rebind, named, Except.map]
      simp [qualified, Script.name]

theorem keepsApart_iff_forall_not_chooses
    (named : context.nameOfRef renamed.ref = .ok name) :
    renamed.KeepsApart context ↔ ∀ label, ¬ renamed.Chooses context label := by
  constructor
  · rintro apart label ⟨first, second, differ, rfl, same⟩
    exact apart first second differ
      ((script_rebind_eq_iff named first second).mpr same.symm)
  · intro single first second differ same
    exact single first.name ⟨first, second, differ, rfl,
      ((script_rebind_eq_iff named first second).mp same).symm⟩

/-- Two columns of one name are written differently behind the alias exactly if
their qualifiers differ. -/
theorem exists_chooses_iff (qualified : context.bareColumns = false) :
    (∃ label, renamed.Chooses context label) ↔
      renamed.target.Clashes context := by
  have inner : (renamed.target.within context).bareColumns = false := by
    rw [bareColumns_within, qualified]
  rw [AliasTarget.clashes_iff]
  constructor
  · rintro ⟨label, first, second, ⟨member, member', path, path', written,
      written', differ⟩, rfl, same⟩
    obtain ⟨front, found, rfl⟩ :=
      (Field.script_eq_name_iff inner first path).mp written
    obtain ⟨front', found', rfl⟩ :=
      (Field.script_eq_name_iff inner second path').mp written'
    refine ⟨first, member, second, member', ⟨front, front', found, found', ?_⟩,
      same.symm⟩
    rintro rfl
    exact differ (by rw [same])
  · rintro ⟨first, member, second, member', ⟨front, front', found, found',
      differ⟩, same⟩
    refine ⟨first.name, first, second, ⟨member, member', _, _,
      (Field.script_eq_name_iff inner first _).mpr ⟨front, found, rfl⟩,
      (Field.script_eq_name_iff inner second _).mpr ⟨front', found', rfl⟩, ?_⟩,
      rfl, same.symm⟩
    intro equal
    exact differ (Path.push_inj.mp equal).1

/-- Where columns are written by their names alone, the alias makes no
difference. -/
theorem not_chooses_of_bareColumns (bare : context.bareColumns = true)
    (label : String) : ¬ renamed.Chooses context label := by
  rintro ⟨first, second, ⟨_, _, path, path', written, written', differ⟩, name,
    name'⟩
  have inner : (renamed.target.within context).bareColumns = true := by
    rw [bareColumns_within, bare]
  rw [Field.script, if_pos inner] at written written'
  cases written
  cases written'
  exact differ (by rw [name, name'])

/-- An alias that is asked for such a name answers with one column, although
another one of that name is written differently. -/
theorem exists_field?_of_chooses {label : String}
    (chooses : renamed.Chooses context label) :
    ∃ field ∈ renamed.target.fields,
      renamed.field? label = some (field.rebind renamed.ref) ∧
      ∃ other ∈ renamed.target.fields, other.name = label ∧
        other.script (renamed.target.within context) ≠
          field.script (renamed.target.within context) := by
  obtain ⟨first, second, ⟨member, member', path, path', written, written',
    differ⟩, called, called'⟩ := chooses
  cases found : renamed.target.fields.find? fun field =>
      field.label == label || field.name == label with
  | none =>
      have missed := List.find?_eq_none.mp found first member
      simp [called] at missed
  | some field =>
      refine ⟨field, List.mem_of_find?_eq_some found, ?_, ?_⟩
      · rw [field?, found]
        rfl
      · -- One answer cannot be written like both of them.
        by_cases same : first.script (renamed.target.within context) =
            field.script (renamed.target.within context)
        · refine ⟨second, member', called', ?_⟩
          rw [← same, written, written']
          simpa [Script.name] using Ne.symm differ
        · exact ⟨first, member, called, same⟩

/-- In a scope that names an alias, the columns behind it are told apart through
it exactly if no two of them clash, or if columns are written by their names
alone.  Otherwise, and only then, there is a name that several different columns
behind it go by, of which the alias picks one. -/
theorem keepsApart_iff
    (named : context.nameOfRef renamed.ref = .ok name) :
    (renamed.KeepsApart context ↔
      context.bareColumns = true ∨ ¬ renamed.target.Clashes context) ∧
    (renamed.KeepsApart context ↔
      ∀ label, ¬ renamed.Chooses context label) ∧
    ∀ label, renamed.Chooses context label →
      ∃ field ∈ renamed.target.fields,
        renamed.field? label = some (field.rebind renamed.ref) ∧
        ∃ other ∈ renamed.target.fields, other.name = label ∧
          other.script (renamed.target.within context) ≠
            field.script (renamed.target.within context) := by
  have single := keepsApart_iff_forall_not_chooses named
  refine ⟨?_, single, fun _ chooses => exists_field?_of_chooses chooses⟩
  rw [single]
  cases bare : context.bareColumns with
  | true => simp [not_chooses_of_bareColumns bare]
  | false => simp [← exists_chooses_iff bare]

/-- Pairs of people: the table next to a copy of it. -/
def couples : Alias :=
  ⟨⟨⟨1⟩, some "j"⟩,
    .join ⟨.source (.table .people), .cross,
      .aliased ⟨⟨⟨2⟩, some "p"⟩, .table .people⟩, none⟩⟩

end Alias

/-- All columns of pairs of people. -/
def Select.coupled : Select :=
  ⟨[.source (.aliased .couples)], none, Expr.ofBool true, [], none, none,
    false, false⟩

namespace Alias

/-- The keys of both sides clash. -/
theorem keepsApart_iff_couples :
    couples.target.Clashes (Select.coupled.scope (.outermost .generic none)) ∧
      ∃ label, couples.Chooses
        (Select.coupled.scope (.outermost .generic none)) label := by
  obtain ⟨apart, single, _⟩ := @keepsApart_iff
    (Select.coupled.scope (.outermost .generic none)) couples "j" rfl
  have clash : couples.target.Clashes
      (Select.coupled.scope (.outermost .generic none)) :=
    ⟨.table .people, List.mem_cons_self,
      .aliased ⟨⟨⟨2⟩, some "p"⟩, .table .people⟩,
      List.mem_cons_of_mem _ List.mem_cons_self,
      ⟨⟨["person"]⟩, ⟨["p"]⟩, rfl, rfl, by decide⟩,
      .ofIndex .people ⟨0, Nat.one_pos⟩, List.mem_cons_self,
      .key ⟨⟨2⟩, some "p"⟩, List.mem_cons_self, rfl⟩
  refine ⟨clash, ?_⟩
  by_contra none
  rcases apart.mp (single.mpr (not_exists.mp none)) with bare | unclashed
  · cases bare
  · exact unclashed clash

/-- The table and the copy have a key each, and through the alias both are
written `"j"."id"`. -/
theorem not_forall_keepsApart :
    ¬ ∀ (context : Context) (renamed : Alias) (name : String),
      context.nameOfRef renamed.ref = .ok name →
        renamed.KeepsApart context := by
  intro always
  have apart := always (Select.coupled.scope (.outermost .generic none))
    couples "j" rfl
  refine apart (.ofIndex .people ⟨0, Nat.one_pos⟩) (.key ⟨⟨2⟩, some "p"⟩)
    ⟨?_, ?_, ⟨["person", "id"]⟩, ⟨["p", "id"]⟩, rfl, rfl, by decide⟩ rfl
  · exact List.mem_cons_self
  · exact List.mem_cons_of_mem _ List.mem_cons_self

end Alias

end SqlWeave
