import SqlWeave.Proofs.Alias.Scopes

/-!
# Parts of statements and their defects

A statement falls into parts that can each be wrong by themselves: the `SELECT`s
in it, the terms of their orderings, the links of their joins, constants, and
columns.  A part is taken together with the statements around it, because
whether an alias has a name depends on them.  What is listed here is only what
can be seen in the tree; nothing is compiled.
-/

namespace SqlWeave

/-- A part of a statement. -/
inductive Part where
  | select (select : Select)
  | term (term : OrderTerm)
  | link (join : Join)
  | constant (constant : Value)
  | column (field : Field)

/-- A part of a statement and where it stands. -/
structure PlacedPart where
  part : Part
  /-- The statements around the part, innermost first. -/
  enclosing : List Select
  /-- Whether the part belongs to the ordering of a compound statement. -/
  bareColumns : Bool

mutual

/-- The parts of an expression. -/
def Expr.parts (bare : Bool) (enclosing : List Select) :
    Expr → List PlacedPart
  | .value constant => [⟨.constant constant, enclosing, bare⟩]
  | .field field => [⟨.column field, enclosing, bare⟩]
  | .query select => select.parts bare enclosing
  | .unary _ operand => operand.parts bare enclosing
  | .binary _ left right =>
      left.parts bare enclosing ++ right.parts bare enclosing

/-- The parts of a `SELECT`: itself, the columns that it selects, and the parts
of what it selects from, of its filter and of its ordering.  An alias that is
selected stands for its columns; what it renames is a part of what is selected
from. -/
def Select.parts (bare : Bool) (enclosing : List Select) :
    Select → List PlacedPart
  | ⟨items, chain, filter, ordering, limit, offset, distinct, forUpdate⟩ =>
      let select : Select :=
        ⟨items, chain, filter, ordering, limit, offset, distinct, forUpdate⟩
      let within : List Select := select :: enclosing
      ⟨.select select, enclosing, bare⟩ ::
      ((SelectItem.allFields items).map fun field =>
        ⟨.column field, within, bare⟩) ++
      (match chain with
        | some chain => chain.parts bare within
        | none => SelectItem.firstParts bare within items) ++
      filter.parts bare within ++
      OrderTerm.allParts bare within ordering

/-- The parts of the source of the first item that has one. -/
def SelectItem.firstParts (bare : Bool) (enclosing : List Select) :
    List SelectItem → List PlacedPart
  | [] => []
  | .source source :: _ => source.parts bare enclosing
  | .field field :: rest =>
      if field.binding.isNone then []
      else SelectItem.firstParts bare enclosing rest

/-- The terms of an ordering and their parts. -/
def OrderTerm.allParts (bare : Bool) (enclosing : List Select) :
    List OrderTerm → List PlacedPart
  | [] => []
  | ⟨expr, direction, nulls⟩ :: rest =>
      ⟨.term ⟨expr, direction, nulls⟩, enclosing, bare⟩ ::
        expr.parts bare enclosing ++ OrderTerm.allParts bare enclosing rest

/-- The parts of a chain. -/
def Chain.parts (bare : Bool) (enclosing : List Select) :
    Chain → List PlacedPart
  | .source source => source.parts bare enclosing
  | .join join => join.parts bare enclosing

/-- The parts of a join: itself, and those of its sides and its predicate. -/
def Join.parts (bare : Bool) (enclosing : List Select) :
    Join → List PlacedPart
  | ⟨left, kind, right, predicate⟩ =>
      ⟨.link ⟨left, kind, right, predicate⟩, enclosing, bare⟩ ::
        left.parts bare enclosing ++ right.parts bare enclosing ++
        match predicate with
        | some predicate => predicate.parts bare enclosing
        | none => []

/-- The parts of a source. -/
def Source.parts (bare : Bool) (enclosing : List Select) :
    Source → List PlacedPart
  | .table _ => []
  | .aliased renamed => renamed.parts bare enclosing

/-- The parts of an alias. -/
def Alias.parts (bare : Bool) (enclosing : List Select) :
    Alias → List PlacedPart
  | ⟨_, target⟩ => target.parts bare enclosing

/-- The parts of what an alias renames. -/
def AliasTarget.parts (bare : Bool) (enclosing : List Select) :
    AliasTarget → List PlacedPart
  | .table _ => []
  | .join join => join.parts bare enclosing
  | .query select => select.parts bare enclosing

end

/-- The parts of what a statement selects from. -/
def Select.sourceParts (bare : Bool) (enclosing : List Select)
    (select : Select) : List PlacedPart :=
  match select.chain with
  | some chain => chain.parts bare enclosing
  | none => SelectItem.firstParts bare enclosing select.items

theorem Select.parts_eq (bare : Bool) (enclosing : List Select)
    (select : Select) :
    select.parts bare enclosing =
      ⟨.select select, enclosing, bare⟩ ::
        (select.projection.map
            (fun field => ⟨.column field, select :: enclosing, bare⟩) ++
          select.sourceParts bare (select :: enclosing) ++
          select.filter.parts bare (select :: enclosing) ++
          OrderTerm.allParts bare (select :: enclosing) select.ordering) := by
  cases select
  rw [parts.eq_def]
  rfl

mutual

/-- The parts of a statement. -/
def Operand.parts : Operand → List PlacedPart
  | .select select => select.parts false []
  | .compound compound => compound.parts

/-- The parts of a compound statement: those of its operands and those of its
ordering, in which columns are written by name alone. -/
def Compound.parts : Compound → List PlacedPart
  | ⟨left, _, right, ordering, _, _⟩ =>
      left.parts ++ right.parts ++ OrderTerm.allParts true [] ordering

end

/-- An item comes from a source: it is the source, or a column that was obtained
through the alias or belongs to the table. -/
def SelectItem.ComesFrom (item : SelectItem) (origin : Source) : Prop :=
  match item with
  | .source held => origin.sameAs held = true
  | .field column =>
      match column.binding with
      | some ref => ∃ renamed, origin = .aliased renamed ∧
          renamed.ref.id = ref.id
      | none => origin.sameAs (.table column.table) = true

/-! ## Selected aliases -/

theorem SelectItem.firstParts_eq (bare : Bool) (enclosing : List Select)
    {items : List SelectItem} {source : Source}
    (found : items.findSome? SelectItem.source? = some source) :
    SelectItem.firstParts bare enclosing items =
      source.parts bare enclosing := by
  induction items with
  | nil => cases found
  | cons item rest ih =>
      cases item with
      | source held =>
          rw [firstParts, Option.some.inj found]
      | field field =>
          rw [List.findSome?_cons, source?] at found
          rw [firstParts]
          cases unbound : field.binding.isNone with
          | true =>
              rw [unbound, if_pos rfl] at found
              rw [if_pos rfl, ← Option.some.inj found, Source.parts]
          | false =>
              rw [unbound] at found
              exact ih found

/-- What a statement selects from has the parts of its target. -/
theorem Select.sourceParts_eq (bare : Bool) (enclosing : List Select)
    {select : Select} {chain : Chain} (target : select.chain? = some chain) :
    select.sourceParts bare enclosing = chain.parts bare enclosing := by
  rw [chain?] at target
  rw [sourceParts]
  cases held : select.chain with
  | some other =>
      rw [held] at target
      cases target
      rfl
  | none =>
      rw [held] at target
      obtain ⟨source, found, rfl⟩ := Option.map_eq_some_iff.mp target
      rw [Chain.parts]
      exact SelectItem.firstParts_eq bare enclosing found

/-- A part is wrong where it stands.  `outer` is the context of the whole
statement. -/
inductive PlacedPart.Defective (outer : Context) : PlacedPart → Prop where
  /-- `FOR UPDATE` is asked for, and the dialect lacks it. -/
  | lock {select : Select} {enclosing : List Select} {bare : Bool}
      (asked : select.forUpdate = true)
      (lacking : outer.dialect.forUpdate = false) :
      Defective outer ⟨.select select, enclosing, bare⟩
  /-- Nothing says what is selected from, not even an item. -/
  | sourceless {select : Select} {enclosing : List Select} {bare : Bool}
      (unstated : select.chain = none)
      (implied : ∀ item ∈ select.items, item.source? = none) :
      Defective outer ⟨.select select, enclosing, bare⟩
  /-- An item is selected that is not among what is selected from. -/
  | missing {select : Select} {enclosing : List Select} {bare : Bool}
      {item : SelectItem} {chain : Chain}
      (target : select.chain? = some chain) (selected : item ∈ select.items)
      (absent : ∀ origin ∈ chain.sources, ¬ item.ComesFrom origin) :
      Defective outer ⟨.select select, enclosing, bare⟩
  /-- When its turn comes to be registered, an alias was given a name that is
  held by another one. -/
  | nameHeld {select : Select} {enclosing : List Select} {bare : Bool}
      {before after : List AliasRef} {ref : AliasRef}
      (order : select.refs = before ++ ref :: after)
      (clash : ((outer.within enclosing).innerNames.registerAll
        before).names.Clashes ref) :
      Defective outer ⟨.select select, enclosing, bare⟩
  /-- A placement of nulls is asked for, and the dialect lacks it. -/
  | nulls {term : OrderTerm} {enclosing : List Select} {bare : Bool}
      (asked : term.nulls.isSome = true)
      (lacking : outer.dialect.nullsOrdering = false) :
      Defective outer ⟨.term term, enclosing, bare⟩
  /-- A join has no predicate although its kind needs one. -/
  | unconditional {join : Join} {enclosing : List Select} {bare : Bool}
      (needed : join.kind.needsPredicate = true)
      (without : join.predicate = none) :
      Defective outer ⟨.link join, enclosing, bare⟩
  | emptyList {enclosing : List Select} {bare : Bool} :
      Defective outer ⟨.constant (.list []), enclosing, bare⟩
  | nestedList {items inner : List Value} {enclosing : List Select}
      {bare : Bool} (held : .list inner ∈ items) :
      Defective outer ⟨.constant (.list items), enclosing, bare⟩
  /-- A column belongs to an alias without a name that no statement around it
  registers. -/
  | unnamed {field : Field} {enclosing : List Select} {ref : AliasRef}
      (bound : field.binding = some ref) (nameless : ref.name = none)
      (unregistered : ∀ select ∈ enclosing,
        ref.id ∉ select.refs.map AliasRef.id) :
      Defective outer ⟨.column field, enclosing, false⟩

/-- None of the parts is defective. -/
def PlacedPart.AllSound (outer : Context) (parts : List PlacedPart) : Prop :=
  ∀ placed ∈ parts, ¬ placed.Defective outer

namespace PlacedPart.AllSound

variable {outer : Context}

@[simp] theorem nil : AllSound outer [] :=
  fun _ member => nomatch member

@[simp] theorem cons_iff {placed : PlacedPart} {rest : List PlacedPart} :
    AllSound outer (placed :: rest) ↔
      ¬ placed.Defective outer ∧ AllSound outer rest := by
  simp [AllSound]

@[simp] theorem append_iff {first second : List PlacedPart} :
    AllSound outer (first ++ second) ↔
      AllSound outer first ∧ AllSound outer second := by
  simp only [AllSound, List.forall_mem_append]

end PlacedPart.AllSound

end SqlWeave
