import SqlWeave.Proofs.Alias.Scopes
import SqlWeave.Proofs.Script.Sharing

/-!
# Columns that a statement refers to

Where a statement that is compiled refers to columns, and which statements
enclose each of these places.  The ordering of a compound statement is left out:
it names columns of the result and not of a source.  If a statement is written
to its end then all its uses of columns are written, each in the scopes of the
statements around it (`Operand.covers`).
-/

namespace SqlWeave

/-- A column and the statements around the place where it is referred to,
innermost first. -/
structure ColumnUse where
  field : Field
  enclosing : List Select

mutual

/-- The uses of columns in an expression. -/
def Expr.columnUses (enclosing : List Select) : Expr → List ColumnUse
  | .value _ => []
  | .field field => [⟨field, enclosing⟩]
  | .query select => select.columnUses enclosing
  | .unary _ operand => operand.columnUses enclosing
  | .binary _ left right =>
      left.columnUses enclosing ++ right.columnUses enclosing

/-- The uses of columns in a `SELECT`: in what it selects, in what it selects
from, in its filter and in its ordering. -/
def Select.columnUses (enclosing : List Select) : Select → List ColumnUse
  | ⟨items, chain, filter, ordering, limit, offset, distinct, forUpdate⟩ =>
      let enclosing : List Select :=
        ⟨items, chain, filter, ordering, limit, offset, distinct, forUpdate⟩ ::
          enclosing
      ((SelectItem.allFields items).map fun field => ⟨field, enclosing⟩) ++
      (match chain with
        | some chain => chain.columnUses enclosing
        | none => SelectItem.firstColumnUses enclosing items) ++
      filter.columnUses enclosing ++
      OrderTerm.allColumnUses enclosing ordering

/-- The uses of columns in the source of the first item that has one. -/
def SelectItem.firstColumnUses (enclosing : List Select) :
    List SelectItem → List ColumnUse
  | [] => []
  | .source source :: _ => source.columnUses enclosing
  | .field field :: rest =>
      if field.binding.isNone then []
      else SelectItem.firstColumnUses enclosing rest

/-- The uses of columns in the terms of an ordering. -/
def OrderTerm.allColumnUses (enclosing : List Select) :
    List OrderTerm → List ColumnUse
  | [] => []
  | ⟨expr, _, _⟩ :: rest =>
      expr.columnUses enclosing ++ OrderTerm.allColumnUses enclosing rest

/-- The uses of columns in a chain. -/
def Chain.columnUses (enclosing : List Select) : Chain → List ColumnUse
  | .source source => source.columnUses enclosing
  | .join join => join.columnUses enclosing

/-- The uses of columns in a join. -/
def Join.columnUses (enclosing : List Select) : Join → List ColumnUse
  | ⟨left, _, right, predicate⟩ =>
      left.columnUses enclosing ++ right.columnUses enclosing ++
        match predicate with
        | some predicate => predicate.columnUses enclosing
        | none => []

/-- The uses of columns in a source. -/
def Source.columnUses (enclosing : List Select) : Source → List ColumnUse
  | .table _ => []
  | .aliased renamed => renamed.columnUses enclosing

/-- The uses of columns in an alias. -/
def Alias.columnUses (enclosing : List Select) : Alias → List ColumnUse
  | ⟨_, target⟩ => target.columnUses enclosing

/-- The uses of columns in what an alias renames. -/
def AliasTarget.columnUses (enclosing : List Select) :
    AliasTarget → List ColumnUse
  | .table _ => []
  | .join join => join.columnUses enclosing
  | .query select => select.columnUses enclosing

end

mutual

/-- The uses of columns in a statement, the ordering of compounds left out. -/
def Operand.columnUses (enclosing : List Select) : Operand → List ColumnUse
  | .select select => select.columnUses enclosing
  | .compound compound => compound.columnUses enclosing

/-- The uses of columns in a compound statement without its ordering. -/
def Compound.columnUses (enclosing : List Select) : Compound → List ColumnUse
  | ⟨left, _, right, _, _, _⟩ =>
      left.columnUses enclosing ++ right.columnUses enclosing

end

/-- The column is among the fragments, as it is named in the scopes around the
place. -/
structure ColumnUse.Written (outer : Context) (fragments : List Fragment)
    (column : ColumnUse) : Prop where
  opens : outer.Opens column.enclosing
  completes :
    (column.field.script (outer.within column.enclosing)).Completes
  subset : Script.fragments
    (column.field.script (outer.within column.enclosing)) ⊆ fragments

theorem ColumnUse.Written.mono {outer : Context} {fragments more : List Fragment}
    {column : ColumnUse} (written : column.Written outer fragments)
    (subset : fragments ⊆ more) : column.Written outer more :=
  ⟨written.opens, written.completes, List.Subset.trans written.subset subset⟩

namespace Script

variable {outer : Context} {columns others : List ColumnUse}
variable {first second : Script}

/-- If the script completes, the columns are written in it. -/
def Covers (outer : Context) (script : Script) (columns : List ColumnUse) :
    Prop :=
  script.Completes →
    ∀ column ∈ columns, column.Written outer script.fragments

namespace Covers

theorem nil (script : Script) : script.Covers outer [] :=
  fun _ _ member => nomatch member

theorem fail (columns : List ColumnUse) (error : QueryError) :
    (Script.fail error).Covers outer columns :=
  fun completes => absurd completes (not_completes_fail error)

theorem append (front : first.Covers outer columns)
    (back : second.Covers outer others) :
    Covers outer (first ++ second) (columns ++ others) := by
  intro completes column member
  obtain ⟨left, right⟩ := (completes_append _ _).mp completes
  rw [left.fragments_append]
  rcases List.mem_append.mp member with among | among
  · exact (front left column among).mono (List.subset_append_left _ _)
  · exact (back right column among).mono (List.subset_append_right _ _)

theorem additive : Additive (Covers outer) where
  nil := nil []
  append := append

theorem keywords :
    Keyword.Fixed fun word => (Script.keyword word).Covers outer [] :=
  fun _ _ => nil _

theorem append_of_nil (front : first.Covers outer columns)
    (script : Script) : Covers outer (first ++ script) columns :=
  additive.append_of_nil front (nil script)

theorem of_nil_append (script : Script) (back : second.Covers outer others) :
    Covers outer (script ++ second) others :=
  additive.of_nil_append (nil script) back

theorem parens (inner : first.Covers outer columns) :
    first.parens.Covers outer columns :=
  additive.parens keywords inner

theorem parensIf (inner : first.Covers outer columns) (wrapped : Bool) :
    (first.parensIf wrapped).Covers outer columns :=
  additive.parensIf keywords inner wrapped

theorem commaSeparated {scripts : List Script}
    (each : Share (Covers outer) scripts columns) :
    (Script.commaSeparated scripts).Covers outer columns :=
  additive.commaSeparated keywords each

theorem ordering {scripts : List Script}
    (each : Share (Covers outer) scripts columns) :
    (orderingScript scripts).Covers outer columns :=
  additive.ordering keywords each

end Covers

end Script

/-! ## Statements -/

theorem Field.covers (outer : Context) (enclosing : List Select)
    (field : Field) (opens : outer.Opens enclosing) :
    (field.script (outer.within enclosing)).Covers outer
      [⟨field, enclosing⟩] := by
  intro completes column member
  rw [List.mem_singleton.mp member]
  exact ⟨opens, completes, List.Subset.refl _⟩

theorem Field.share_covers (outer : Context) (enclosing : List Select)
    (opens : outer.Opens enclosing) (fields : List Field) :
    Script.Share (Script.Covers outer)
      (fields.map fun field => field.script (outer.within enclosing))
      (fields.map fun field => ⟨field, enclosing⟩) := by
  induction fields with
  | nil => exact .nil
  | cons field rest ih =>
      exact Script.Share.cons (field.covers outer enclosing opens) ih

theorem Select.itemsScript_covers (outer : Context) (enclosing : List Select)
    (opens : outer.Opens enclosing) (select : Select) :
    (select.itemsScript (outer.within enclosing)).Covers outer
      (select.projection.map fun field => ⟨field, enclosing⟩) := by
  rw [itemsScript]
  apply Script.Covers.of_nil_append
  split
  · next empty =>
      rw [projection_eq_nil_of_isEmpty empty]
      exact .nil _
  · exact .commaSeparated (Field.share_covers outer enclosing opens _)

/-- A filter that is not compiled refers to no columns. -/
theorem filterScript_covers {outer : Context} {enclosing : List Select}
    (filter : Expr) {script : Script}
    (inner : script.Covers outer (filter.columnUses enclosing)) :
    (filterScript filter.asBool? script).Covers outer
      (filter.columnUses enclosing) := by
  cases constant : filter.asBool? with
  | none => exact inner.of_nil_append _
  | some held =>
      rw [Expr.eq_ofBool_of_asBool? constant]
      exact .nil _

/-- The uses of columns in a statement are those in its clauses, in its scope. -/
theorem Select.script_covers {outer : Context} {enclosing : List Select}
    (select : Select) {columns : List ColumnUse}
    (opens : outer.Opens enclosing)
    (clauses : outer.Opens (select :: enclosing) →
      (select.clausesScript (outer.within (select :: enclosing))).Covers outer
        columns) :
    (select.script (outer.within enclosing)).Covers outer columns := by
  intro completes column member
  obtain ⟨chain, admitted⟩ := admitted_of_completes completes
  rw [admitted.fragments_eq]
  exact clauses ⟨opens, admitted.registered⟩ admitted.clauses column member

/-- The clauses of a statement cover the uses of its parts one after the
other. -/
theorem Select.clausesScript_covers {outer : Context} {enclosing : List Select}
    (opens : outer.Opens enclosing) (select : Select)
    {source ordering : List ColumnUse}
    (sources : (select.sourceScript (outer.within enclosing)).Covers outer
      source)
    (filtered : (select.filter.script (outer.within enclosing)).Covers outer
      (select.filter.columnUses enclosing))
    (ordered : Script.Share (Script.Covers outer)
      (OrderTerm.scripts (outer.within enclosing) select.ordering) ordering) :
    (select.clausesScript (outer.within enclosing)).Covers outer
      ((select.projection.map fun field => ⟨field, enclosing⟩) ++ source ++
        select.filter.columnUses enclosing ++ ordering) := by
  have selected := (Select.itemsScript_covers outer enclosing opens
    select).append_of_nil (Script.keyword .fromSources)
  have filters := filterScript_covers select.filter filtered
  have body := ((selected.append sources).append filters).append
    (.ordering ordered)
  have limited := body.append_of_nil
    (limitsScript (outer.within enclosing) select.limit select.offset)
  exact limited.append_of_nil _

mutual

theorem Expr.covers (outer : Context) (enclosing : List Select)
    (opens : outer.Opens enclosing) : (expr : Expr) →
      (expr.script (outer.within enclosing)).Covers outer
        (expr.columnUses enclosing)
  | .value _ => .nil _
  | .field field => field.covers outer enclosing opens
  | .query select => (Select.covers outer enclosing opens select).parens
  | .unary _ operand =>
      ((Expr.covers outer enclosing opens operand).parensIf _).of_nil_append _
  | .binary _ left right =>
      (((Expr.covers outer enclosing opens left).parensIf _).append_of_nil
        _).append ((Expr.covers outer enclosing opens right).parensIf _)

theorem Select.covers (outer : Context) (enclosing : List Select)
    (opens : outer.Opens enclosing) : (select : Select) →
      (select.script (outer.within enclosing)).Covers outer
        (select.columnUses enclosing)
  | ⟨items, chain, filter, ordering, limit, offset, distinct, forUpdate⟩ => by
      apply Select.script_covers _ opens
      intro opened
      have filtered := Expr.covers outer _ opened filter
      have ordered := OrderTerm.share_covers outer _ opened ordering
      cases chain with
      | some chain =>
          have sources := Chain.covers outer _ opened chain
          exact Select.clausesScript_covers opened _ sources filtered ordered
      | none =>
          have sources := SelectItem.covers outer _ opened items
          exact Select.clausesScript_covers opened _ sources filtered ordered

theorem SelectItem.covers (outer : Context) (enclosing : List Select)
    (opens : outer.Opens enclosing) : (items : List SelectItem) →
      (SelectItem.firstSourceScript (outer.within enclosing) items).Covers outer
        (SelectItem.firstColumnUses enclosing items)
  | [] => .nil _
  | .source source :: _ => Source.covers outer enclosing opens source
  | .field field :: rest => by
      rw [SelectItem.firstSourceScript, SelectItem.firstColumnUses]
      split
      · exact .nil _
      · exact SelectItem.covers outer enclosing opens rest

theorem OrderTerm.share_covers (outer : Context) (enclosing : List Select)
    (opens : outer.Opens enclosing) : (terms : List OrderTerm) →
      Script.Share (Script.Covers outer)
        (OrderTerm.scripts (outer.within enclosing) terms)
        (OrderTerm.allColumnUses enclosing terms)
  | [] => .nil
  | ⟨expr, direction, none⟩ :: rest => by
      have directed := (Expr.covers outer enclosing opens expr).append_of_nil
        (Script.keyword direction.keyword)
      rw [OrderTerm.scripts, OrderTerm.script]
      exact Script.Share.cons directed
        (OrderTerm.share_covers outer enclosing opens rest)
  | ⟨expr, direction, some nulls⟩ :: rest => by
      have directed := (Expr.covers outer enclosing opens expr).append_of_nil
        (Script.keyword direction.keyword)
      rw [OrderTerm.scripts, OrderTerm.script]
      refine Script.Share.cons ?_
        (OrderTerm.share_covers outer enclosing opens rest)
      split
      · exact directed.append_of_nil _
      · exact .fail _ _

theorem Chain.covers (outer : Context) (enclosing : List Select)
    (opens : outer.Opens enclosing) : (chain : Chain) →
      (chain.script (outer.within enclosing)).Covers outer
        (chain.columnUses enclosing)
  | .source source => Source.covers outer enclosing opens source
  | .join join => Join.covers outer enclosing opens join

theorem Join.covers (outer : Context) (enclosing : List Select)
    (opens : outer.Opens enclosing) : (join : Join) →
      (join.script (outer.within enclosing)).Covers outer
        (join.columnUses enclosing)
  | ⟨left, kind, right, predicate⟩ => by
      have sides := ((Chain.covers outer enclosing opens left).append_of_nil
        (Script.keyword kind.keyword)).append
          (Source.covers outer enclosing opens right)
      cases predicate with
      | some predicate =>
          rw [Join.script]
          exact sides.append ((Expr.covers outer enclosing opens
            predicate).of_nil_append _)
      | none =>
          rw [Join.script]
          exact sides.append (.nil _)

theorem Source.covers (outer : Context) (enclosing : List Select)
    (opens : outer.Opens enclosing) : (source : Source) →
      (source.script (outer.within enclosing)).Covers outer
        (source.columnUses enclosing)
  | .table _ => .nil _
  | .aliased renamed => Alias.covers outer enclosing opens renamed

theorem Alias.covers (outer : Context) (enclosing : List Select)
    (opens : outer.Opens enclosing) : (renamed : Alias) →
      (renamed.script (outer.within enclosing)).Covers outer
        (renamed.columnUses enclosing)
  | ⟨ref, target⟩ => by
      rw [Alias.script]
      split
      · exact ((AliasTarget.covers outer enclosing opens
          target).append_of_nil _).append_of_nil _
      · exact .fail _ _

theorem AliasTarget.covers (outer : Context) (enclosing : List Select)
    (opens : outer.Opens enclosing) : (target : AliasTarget) →
      (target.script (outer.within enclosing)).Covers outer
        (target.columnUses enclosing)
  | .table _ => .nil _
  | .join join => (Join.covers outer enclosing opens join).parens
  | .query select => (Select.covers outer enclosing opens select).parens

end

mutual

theorem Operand.covers (outer : Context) (enclosing : List Select)
    (opens : outer.Opens enclosing) : (operand : Operand) →
      (operand.script (outer.within enclosing)).Covers outer
        (operand.columnUses enclosing)
  | .select select => (Select.covers outer enclosing opens select).parensIf _
  | .compound compound =>
      (Compound.covers outer enclosing opens compound).parensIf _

theorem Compound.covers (outer : Context) (enclosing : List Select)
    (opens : outer.Opens enclosing) : (compound : Compound) →
      (compound.script (outer.within enclosing)).Covers outer
        (compound.columnUses enclosing)
  | ⟨left, operator, right, ordering, limit, offset⟩ => by
      have sides := ((Operand.covers outer enclosing opens left).append_of_nil
        (Script.keyword operator.keyword)).append
          (Operand.covers outer enclosing opens right)
      rw [Compound.script]
      exact (sides.append_of_nil _).append_of_nil _

end

end SqlWeave
