import SqlWeave.Proofs.Defects.Parts
import SqlWeave.Proofs.Script.Sharing

/-!
# Where statements are written

A statement may hold `SELECT`s at any depth: as operands, behind aliases, in the
predicates of joins, in orderings.  If the whole is written to its end then so
is each of these, in one piece and in the scopes of the statements around it
(`Operand.holds`).
-/

namespace SqlWeave

/-- The context of the parts that belong to the ordering of a compound
statement, or of those that do not. -/
def Context.inOrdering (outer : Context) : Bool → Context
  | true => outer.withBareColumns
  | false => outer

theorem Context.inOrdering_true (outer : Context) :
    outer.inOrdering true = outer.withBareColumns := rfl

theorem Context.inOrdering_false (outer : Context) :
    outer.inOrdering false = outer := rfl

/-- The statement has registered its aliases within the statements around it,
and is written to its end among the fragments. -/
structure Select.Stands (context : Context) (fragments : List Fragment)
    (enclosing : List Select) (select : Select) : Prop where
  registered : (select.registration (context.within enclosing)).failure = none
  completes : (select.script (context.within enclosing)).Completes
  written : Script.fragments (select.script (context.within enclosing)) <:+:
    fragments

theorem Select.Stands.mono {context : Context} {fragments more : List Fragment}
    {enclosing : List Select} {select : Select}
    (stands : select.Stands context fragments enclosing)
    (inside : fragments <:+: more) : select.Stands context more enclosing :=
  ⟨stands.registered, stands.completes, stands.written.trans inside⟩

namespace Script

variable {outer : Context} {parts others : List PlacedPart}
variable {first second : Script}

/-- If the script completes, the `SELECT`s among the parts are written in it. -/
def Holds (outer : Context) (script : Script) (parts : List PlacedPart) :
    Prop :=
  script.Completes → ∀ select enclosing bare,
    ⟨.select select, enclosing, bare⟩ ∈ parts →
    select.Stands (outer.inOrdering bare) script.fragments enclosing

namespace Holds

/-- Nothing has to be written for other parts. -/
theorem of_forall_ne (script : Script)
    (each : ∀ placed ∈ parts, ∀ select, placed.part ≠ .select select) :
    script.Holds outer parts :=
  fun _ select _ _ member => absurd rfl (each _ member select)

theorem nil (script : Script) : script.Holds outer [] :=
  of_forall_ne script fun _ member => nomatch member

theorem fail (parts : List PlacedPart) (error : QueryError) :
    (Script.fail error).Holds outer parts :=
  fun completes => absurd completes (not_completes_fail error)

theorem append (front : first.Holds outer parts)
    (back : second.Holds outer others) :
    Holds outer (first ++ second) (parts ++ others) := by
  intro completes select enclosing bare member
  obtain ⟨left, right⟩ := (completes_append _ _).mp completes
  rw [left.fragments_append]
  rcases List.mem_append.mp member with among | among
  · exact (front left select enclosing bare among).mono
      (List.prefix_append _ _).isInfix
  · exact (back right select enclosing bare among).mono
      (List.suffix_append _ _).isInfix

theorem additive : Additive (Holds outer) where
  nil := nil []
  append := append

theorem keywords :
    Keyword.Fixed fun word => (Script.keyword word).Holds outer [] :=
  fun _ _ => nil _

theorem append_of_nil (front : first.Holds outer parts) (script : Script) :
    Holds outer (first ++ script) parts :=
  additive.append_of_nil front (nil script)

theorem of_nil_append (script : Script) (back : second.Holds outer others) :
    Holds outer (script ++ second) others :=
  additive.of_nil_append (nil script) back

/-- A part that is no `SELECT` may be added. -/
theorem cons {placed : PlacedPart}
    (other : ∀ select, placed.part ≠ .select select)
    (rest : first.Holds outer parts) : first.Holds outer (placed :: parts) := by
  intro completes select enclosing bare member
  rcases List.mem_cons.mp member with rfl | later
  · exact absurd rfl (other select)
  · exact rest completes select enclosing bare later

theorem parens (inner : first.Holds outer parts) :
    first.parens.Holds outer parts :=
  additive.parens keywords inner

theorem parensIf (inner : first.Holds outer parts) (wrapped : Bool) :
    (first.parensIf wrapped).Holds outer parts :=
  additive.parensIf keywords inner wrapped

theorem ordering {scripts : List Script}
    (each : Share (Holds outer) scripts parts) :
    (orderingScript scripts).Holds outer parts :=
  additive.ordering keywords each

end Holds

end Script

/-! ## Statements -/

/-- A constant filter holds no statement. -/
theorem filterScript_holds {outer : Context} {bare : Bool}
    {enclosing : List Select} (filter : Expr) {script : Script}
    (inner : script.Holds outer (filter.parts bare enclosing)) :
    (filterScript filter.asBool? script).Holds outer
      (filter.parts bare enclosing) := by
  cases constant : filter.asBool? with
  | none => exact inner.of_nil_append _
  | some held =>
      rw [Expr.eq_ofBool_of_asBool? constant]
      exact .cons nofun (.nil _)

/-- A statement holds itself and what its clauses hold in its scope. -/
theorem Select.script_holds {outer context : Context} {bare : Bool}
    {enclosing : List Select} (select : Select)
    (same : outer.inOrdering bare = context)
    (source : (select.sourceScript
      (context.within (select :: enclosing))).Holds outer
        (select.sourceParts bare (select :: enclosing)))
    (filtered : (select.filter.script
      (context.within (select :: enclosing))).Holds outer
        (select.filter.parts bare (select :: enclosing)))
    (ordered : Script.Share (Script.Holds outer)
      (OrderTerm.scripts (context.within (select :: enclosing))
        select.ordering)
      (OrderTerm.allParts bare (select :: enclosing) select.ordering)) :
    (select.script (context.within enclosing)).Holds outer
      (select.parts bare enclosing) := by
  intro completes held around bare' member
  obtain ⟨chain, admitted⟩ := admitted_of_completes completes
  rw [parts_eq] at member
  rcases List.mem_cons.mp member with itself | inside
  · cases itself
    rw [same]
    exact ⟨admitted.registered, completes, List.infix_rfl⟩
  · have columns : ∀ placed ∈ select.projection.map fun field =>
        (⟨.column field, select :: enclosing, bare⟩ : PlacedPart),
        ∀ other, placed.part ≠ .select other := by
      intro placed among other
      obtain ⟨field, _, rfl⟩ := List.mem_map.mp among
      exact nofun
    have selected :=
      @Script.Holds.of_forall_ne outer _ (select.itemsScript
        (context.within (select :: enclosing)) ++
          Script.keyword .fromSources) columns
    have filters := filterScript_holds select.filter filtered
    have body := ((selected.append source).append filters).append
      (.ordering ordered)
    have limited := body.append_of_nil (limitsScript
      (context.within (select :: enclosing)) select.limit select.offset)
    have whole := limited.append_of_nil
      (if select.forUpdate then Script.keyword .forUpdate else [])
    rw [admitted.fragments_eq]
    exact whole admitted.clauses held around bare' inside

variable {outer context : Context} {bare : Bool}

mutual

theorem Expr.holds (same : outer.inOrdering bare = context)
    (enclosing : List Select) : (expr : Expr) →
      (expr.script (context.within enclosing)).Holds outer
        (expr.parts bare enclosing)
  | .value _ => .cons nofun (.nil _)
  | .field _ => .cons nofun (.nil _)
  | .query select => (Select.holds same enclosing select).parens
  | .unary _ operand =>
      ((Expr.holds same enclosing operand).parensIf _).of_nil_append _
  | .binary _ left right =>
      (((Expr.holds same enclosing left).parensIf _).append_of_nil _).append
        ((Expr.holds same enclosing right).parensIf _)

theorem Select.holds (same : outer.inOrdering bare = context)
    (enclosing : List Select) : (select : Select) →
      (select.script (context.within enclosing)).Holds outer
        (select.parts bare enclosing)
  | ⟨items, chain, filter, ordering, limit, offset, distinct, forUpdate⟩ => by
      apply Select.script_holds _ same
      case source =>
        cases chain with
        | some chain => exact Chain.holds same _ chain
        | none => exact SelectItem.holds same _ items
      case filtered => exact Expr.holds same _ filter
      case ordered => exact OrderTerm.share_holds same _ ordering

theorem SelectItem.holds (same : outer.inOrdering bare = context)
    (enclosing : List Select) : (items : List SelectItem) →
      (SelectItem.firstSourceScript (context.within enclosing) items).Holds
        outer (SelectItem.firstParts bare enclosing items)
  | [] => .nil _
  | .source source :: _ => Source.holds same enclosing source
  | .field field :: rest => by
      rw [SelectItem.firstSourceScript, SelectItem.firstParts]
      split
      · exact .nil _
      · exact SelectItem.holds same enclosing rest

theorem OrderTerm.share_holds (same : outer.inOrdering bare = context)
    (enclosing : List Select) : (terms : List OrderTerm) →
      Script.Share (Script.Holds outer)
        (OrderTerm.scripts (context.within enclosing) terms)
        (OrderTerm.allParts bare enclosing terms)
  | [] => .nil
  | ⟨expr, direction, none⟩ :: rest => by
      have directed := (Expr.holds same enclosing expr).append_of_nil
        (Script.keyword direction.keyword)
      rw [OrderTerm.scripts, OrderTerm.script]
      exact Script.Share.cons (directed.cons nofun)
        (OrderTerm.share_holds same enclosing rest)
  | ⟨expr, direction, some nulls⟩ :: rest => by
      have directed := (Expr.holds same enclosing expr).append_of_nil
        (Script.keyword direction.keyword)
      rw [OrderTerm.scripts, OrderTerm.script]
      refine Script.Share.cons (.cons nofun ?_)
        (OrderTerm.share_holds same enclosing rest)
      split
      · exact directed.append_of_nil _
      · exact .fail _ _

theorem Chain.holds (same : outer.inOrdering bare = context)
    (enclosing : List Select) : (chain : Chain) →
      (chain.script (context.within enclosing)).Holds outer
        (chain.parts bare enclosing)
  | .source source => Source.holds same enclosing source
  | .join join => Join.holds same enclosing join

theorem Join.holds (same : outer.inOrdering bare = context)
    (enclosing : List Select) : (join : Join) →
      (join.script (context.within enclosing)).Holds outer
        (join.parts bare enclosing)
  | ⟨left, kind, right, predicate⟩ => by
      have sides := ((Chain.holds same enclosing left).append_of_nil
        (Script.keyword kind.keyword)).append
          (Source.holds same enclosing right)
      cases predicate with
      | some predicate =>
          rw [Join.script]
          exact .cons nofun (sides.append
            ((Expr.holds same enclosing predicate).of_nil_append _))
      | none =>
          rw [Join.script]
          exact .cons nofun (sides.append (.nil _))

theorem Source.holds (same : outer.inOrdering bare = context)
    (enclosing : List Select) : (source : Source) →
      (source.script (context.within enclosing)).Holds outer
        (source.parts bare enclosing)
  | .table _ => .nil _
  | .aliased renamed => Alias.holds same enclosing renamed

theorem Alias.holds (same : outer.inOrdering bare = context)
    (enclosing : List Select) : (renamed : Alias) →
      (renamed.script (context.within enclosing)).Holds outer
        (renamed.parts bare enclosing)
  | ⟨ref, target⟩ => by
      rw [Alias.script]
      split
      · exact ((AliasTarget.holds same enclosing target).append_of_nil
          _).append_of_nil _
      · exact .fail _ _

theorem AliasTarget.holds (same : outer.inOrdering bare = context)
    (enclosing : List Select) : (target : AliasTarget) →
      (target.script (context.within enclosing)).Holds outer
        (target.parts bare enclosing)
  | .table _ => .nil _
  | .join join => (Join.holds same enclosing join).parens
  | .query select => (Select.holds same enclosing select).parens

end

mutual

/-- Every `SELECT` of a statement is written in it. -/
theorem Operand.holds (outer : Context) : (operand : Operand) →
    (operand.script outer).Holds outer operand.parts
  | .select select => (Select.holds outer.inOrdering_false [] select).parensIf _
  | .compound compound => (Compound.holds outer compound).parensIf _

theorem Compound.holds (outer : Context) : (compound : Compound) →
    (compound.script outer).Holds outer compound.parts
  | ⟨left, operator, right, ordering, limit, offset⟩ => by
      have sides := ((Operand.holds outer left).append_of_nil
        (Script.keyword operator.keyword)).append (Operand.holds outer right)
      have ordered := OrderTerm.share_holds outer.inOrdering_true [] ordering
      rw [Compound.script]
      exact (sides.append (.ordering ordered)).append_of_nil _

end

end SqlWeave
