import SqlWeave.Proofs.Columns.Provenance
import SqlWeave.Proofs.Script.Sharing

/-!
# Names of what is selected from

The aliases that a statement registers and those that its `FROM` target is
written with are found by two recursions over the same tree.  They agree
(`Source.names_iff`), so every alias that is written in the scope of a statement
has a name there, and if a `FROM` target fails for want of a name then it is a
column in it that has none (`Select.target_named`).
-/

namespace SqlWeave

/-! ## Aliases that share a scope -/

/-- Writing the source names the alias in the same scope: it is the alias
itself, or it renames a join one of whose sources does so.  Sub-queries have
scopes of their own. -/
inductive Source.Names : Source → Alias → Prop where
  | itself (renamed : Alias) : Names (.aliased renamed) renamed
  | inside {ref : AliasRef} {join : Join} {source : Source} {renamed : Alias}
      (held : source ∈ join.sources) (within : Names source renamed) :
      Names (.aliased ⟨ref, .join join⟩) renamed

mutual

theorem Chain.aliases_subset {source : Source} : (chain : Chain) →
    source ∈ chain.sources → source.aliases ⊆ chain.aliases
  | .source held, member => by
      rw [Chain.aliases, List.mem_singleton.mp member]
      exact List.Subset.refl _
  | .join join, member => by
      rw [Chain.aliases]
      exact Join.aliases_subset join member

theorem Join.aliases_subset {source : Source} : (join : Join) →
    source ∈ join.sources → source.aliases ⊆ join.aliases
  | ⟨left, kind, right, predicate⟩, member => by
      rw [Join.aliases]
      rcases List.mem_append.mp member with inside | last
      · exact List.subset_append_of_subset_left _
          (Chain.aliases_subset left inside)
      · rw [List.mem_singleton.mp last]
        exact List.subset_append_right _ _

end

theorem Source.Names.mem_aliases {source : Source} {renamed : Alias}
    (names : source.Names renamed) : renamed ∈ source.aliases := by
  induction names with
  | itself renamed => exact List.mem_cons_self
  | inside held _ ih =>
      exact List.mem_cons_of_mem _ (Join.aliases_subset _ held ih)

mutual

theorem Source.names_of_mem_aliases {renamed : Alias} : (source : Source) →
    renamed ∈ source.aliases → source.Names renamed
  | .table _, member => nomatch member
  | .aliased ⟨ref, target⟩, member => by
      rw [Source.aliases, Alias.nested] at member
      rcases List.mem_cons.mp member with rfl | nested
      · exact .itself _
      · obtain ⟨join, rfl, source, held, within⟩ :=
          AliasTarget.exists_of_mem_nested target nested
        exact .inside held within

theorem AliasTarget.exists_of_mem_nested {renamed : Alias} :
    (target : AliasTarget) → renamed ∈ target.nested →
      ∃ join, target = .join join ∧
        ∃ source ∈ join.sources, source.Names renamed
  | .table _, member => nomatch member
  | .query _, member => nomatch member
  | .join join, member =>
      ⟨join, rfl, Join.exists_of_mem_aliases join member⟩

theorem Join.exists_of_mem_aliases {renamed : Alias} : (join : Join) →
    renamed ∈ join.aliases → ∃ source ∈ join.sources, source.Names renamed
  | ⟨left, kind, right, predicate⟩, member => by
      rw [Join.sources]
      rcases List.mem_append.mp member with inside | last
      · obtain ⟨source, held, names⟩ :=
          Chain.exists_of_mem_aliases left inside
        exact ⟨source, List.mem_append_left _ held, names⟩
      · exact ⟨right, List.mem_append_right _ List.mem_cons_self,
          Source.names_of_mem_aliases right last⟩

theorem Chain.exists_of_mem_aliases {renamed : Alias} : (chain : Chain) →
    renamed ∈ chain.aliases → ∃ source ∈ chain.sources, source.Names renamed
  | .source source, member =>
      ⟨source, List.mem_cons_self, Source.names_of_mem_aliases source member⟩
  | .join join, member => Join.exists_of_mem_aliases join member

end

/-- A source brings along exactly the aliases that are written with it. -/
theorem Source.names_iff (source : Source) (renamed : Alias) :
    source.Names renamed ↔ renamed ∈ source.aliases :=
  ⟨fun names => names.mem_aliases, source.names_of_mem_aliases⟩

/-! ## Failures for want of a name -/

namespace AliasNames

/-- Registration fails only because of a name that is held already. -/
theorem exists_duplicateAlias_of_registerAll {names : AliasNames}
    {refs : List AliasRef} {error : QueryError}
    (failed : (names.registerAll refs).failure = some error) :
    ∃ name, error = .duplicateAlias name := by
  induction refs generalizing names with
  | nil => cases failed
  | cons ref rest ih =>
      rw [registerAll] at failed
      rcases names.register_cases ref with
        ⟨_, _, step⟩ | ⟨_, _, step⟩ | ⟨_, _, step⟩
      · rw [step] at failed
        exact ih failed
      · rw [step] at failed
        cases failed
        exact ⟨_, rfl⟩
      · rw [step] at failed
        exact ih failed

end AliasNames

/-- A statement that fails for want of a name has passed its checks and
registered its aliases. -/
theorem Select.clauses_of_unnamed {context : Context} {select : Select}
    {id : AliasId}
    (failed : (select.script context).failure? = some (.unnamedAlias id)) :
    ∃ chain, select.chain? = some chain ∧
      (select.registration context).failure = none ∧
      (select.clausesScript (select.scope context)).failure? =
        some (.unnamedAlias id) := by
  rw [script_eq_inScope, inScope] at failed
  split at failed
  · cases failed
  · split at failed
    · cases failed
    · next chain target =>
      split at failed
      · cases failed
      · rw [Script.failure?_append, Script.completes_notes, Option.none_or]
          at failed
        refine ⟨chain, target, ?_⟩
        unfold registration
        split at failed
        · next held =>
          obtain ⟨name, rfl⟩ :=
            AliasNames.exists_duplicateAlias_of_registerAll held
          cases failed
        · next registered => exact ⟨registered, failed⟩

namespace Script

variable {outer : Context} {parts others : List PlacedPart}
variable {first second : Script}

/-- If the script fails for want of the name of an alias, then one of the
columns among the parts fails so where it stands. -/
def Blames (outer : Context) (script : Script) (parts : List PlacedPart) :
    Prop :=
  ∀ id, script.failure? = some (.unnamedAlias id) →
    ∃ placed ∈ parts, ∃ field, placed.part = .column field ∧
      (field.script (outer.within placed.enclosing)).failure? =
        some (.unnamedAlias id)

namespace Blames

theorem of_completes {script : Script} (completes : script.Completes)
    (parts : List PlacedPart) : script.Blames outer parts := by
  intro id failed
  rw [completes] at failed
  cases failed

theorem fail {error : QueryError} (other : ∀ id, error ≠ .unnamedAlias id)
    (parts : List PlacedPart) : (Script.fail error).Blames outer parts := by
  intro id failed
  exact absurd (Option.some.inj failed) (other id)

theorem mono {script : Script} (blames : script.Blames outer parts)
    (subset : parts ⊆ others) : script.Blames outer others := by
  intro id failed
  obtain ⟨placed, member, column⟩ := blames id failed
  exact ⟨placed, subset member, column⟩

theorem append (front : first.Blames outer parts)
    (back : second.Blames outer others) :
    Blames outer (first ++ second) (parts ++ others) := by
  intro id failed
  rw [failure?_append] at failed
  rcases Option.or_eq_some_iff.mp failed with failed | ⟨_, failed⟩
  · exact front.mono (List.subset_append_left _ _) id failed
  · exact back.mono (List.subset_append_right _ _) id failed

theorem additive : Additive (Blames outer) where
  nil := of_completes completes_nil []
  append := append

theorem keywords :
    Keyword.Fixed fun word => (Script.keyword word).Blames outer [] :=
  fun word _ => of_completes (completes_keyword word) []

theorem append_of_completes (front : first.Blames outer parts)
    (completes : second.Completes) : Blames outer (first ++ second) parts :=
  additive.append_of_nil front (of_completes completes [])

theorem of_completes_append (completes : first.Completes)
    (back : second.Blames outer others) :
    Blames outer (first ++ second) others :=
  additive.of_nil_append (of_completes completes []) back

theorem cons (placed : PlacedPart) (rest : first.Blames outer parts) :
    first.Blames outer (placed :: parts) :=
  rest.mono (List.subset_cons_self _ _)

theorem parens (inner : first.Blames outer parts) :
    first.parens.Blames outer parts :=
  additive.parens keywords inner

theorem parensIf (inner : first.Blames outer parts) (wrapped : Bool) :
    (first.parensIf wrapped).Blames outer parts :=
  additive.parensIf keywords inner wrapped

theorem commaSeparated {scripts : List Script}
    (each : Share (Blames outer) scripts parts) :
    (Script.commaSeparated scripts).Blames outer parts :=
  additive.commaSeparated keywords each

theorem ordering {scripts : List Script}
    (each : Share (Blames outer) scripts parts) :
    (orderingScript scripts).Blames outer parts :=
  additive.ordering keywords each

end Blames

end Script

/-! ## Parts of statements -/

variable {outer : Context}

theorem Value.boundScript_blames (value : Value) :
    value.boundScript.Blames outer [] := by
  cases value with
  | list items => exact .fail (by simp) _
  | _ => exact .of_completes (Script.completes_parameter _) _

theorem Value.script_blames (value : Value) :
    value.script.Blames outer [] := by
  cases value with
  | null => exact .of_completes (Script.completes_keyword _) _
  | list items =>
      rw [Value.script, Value.listScript]
      split
      · exact .fail (by simp) _
      · apply Script.Blames.parens
        apply Script.Blames.commaSeparated
        apply Script.Share.of_forall_nil
        rw [List.forall_mem_map]
        exact fun item _ => item.boundScript_blames
  | _ => exact .of_completes (Script.completes_parameter _) _

theorem Field.script_blames (enclosing : List Select) (bare : Bool)
    (field : Field) :
    (field.script (outer.within enclosing)).Blames outer
      [⟨.column field, enclosing, bare⟩] :=
  fun _ failed => ⟨_, List.mem_cons_self, field, rfl, failed⟩

theorem Field.allBlame (enclosing : List Select) (bare : Bool)
    (fields : List Field) :
    Script.Share (Script.Blames outer)
      (fields.map fun field => field.script (outer.within enclosing))
      (fields.map fun field => ⟨.column field, enclosing, bare⟩) := by
  induction fields with
  | nil => exact .nil
  | cons field rest ih => exact .cons (field.script_blames enclosing bare) ih

theorem Select.itemsScript_blames (enclosing : List Select) (bare : Bool)
    (select : Select) :
    (select.itemsScript (outer.within enclosing)).Blames outer
      (select.projection.map fun field => ⟨.column field, enclosing, bare⟩) := by
  rw [itemsScript]
  apply Script.Blames.of_completes_append
  · split <;> simp
  · split
    · exact .of_completes (Script.completes_keyword _) _
    · exact .commaSeparated (Field.allBlame enclosing bare _)

theorem filterScript_blames {parts : List PlacedPart} (filter : Expr)
    {script : Script} (inner : script.Blames outer parts) :
    (filterScript filter.asBool? script).Blames outer parts := by
  unfold filterScript
  split
  · exact .of_completes Script.completes_nil _
  · exact .of_completes (by simp) _
  · exact inner.of_completes_append (Script.completes_keyword _)

/-- A statement blames what its clauses blame, provided that the aliases of its
target have names in its scope. -/
theorem Select.script_blames_of_clauses {enclosing : List Select}
    {bare : Bool} {select : Select}
    (source : ∀ chain, select.chain? = some chain →
      (outer.within (select :: enclosing)).NamesAll chain.aliases →
      (select.sourceScript (outer.within (select :: enclosing))).Blames outer
        (select.sourceParts bare (select :: enclosing)))
    (filtered : (select.filter.script
      (outer.within (select :: enclosing))).Blames outer
        (select.filter.parts bare (select :: enclosing)))
    (ordered : Script.Share (Script.Blames outer)
      (OrderTerm.scripts (outer.within (select :: enclosing)) select.ordering)
      (OrderTerm.allParts bare (select :: enclosing) select.ordering)) :
    (select.script (outer.within enclosing)).Blames outer
      (select.parts bare enclosing) := by
  intro id failed
  obtain ⟨chain, target, registered, clauses⟩ := clauses_of_unnamed failed
  have selected := (@Select.itemsScript_blames outer (select :: enclosing) bare
    select).append_of_completes (Script.completes_keyword .fromSources)
  have sources := source chain target (namesAll_target registered target)
  have filters := filterScript_blames select.filter filtered
  have body := ((selected.append sources).append filters).append
    (.ordering ordered)
  have limited := body.append_of_completes (limitsScript_completes
    (outer.within (select :: enclosing)) select.limit select.offset)
  have locked : (if select.forUpdate then Script.keyword .forUpdate
      else []).Completes := by
    cases select.forUpdate <;> simp
  rw [parts_eq]
  exact (limited.append_of_completes locked).cons _ id clauses

mutual

theorem Expr.script_blames (bare : Bool) (enclosing : List Select) :
    (expr : Expr) → (expr.script (outer.within enclosing)).Blames outer
      (expr.parts bare enclosing)
  | .value constant => constant.script_blames.cons _
  | .field field => field.script_blames enclosing bare
  | .query select => (Select.script_blames bare enclosing select).parens
  | .unary _ operand =>
      ((Expr.script_blames bare enclosing operand).parensIf
        _).of_completes_append (Script.completes_keyword _)
  | .binary _ left right =>
      (((Expr.script_blames bare enclosing left).parensIf
        _).append_of_completes (Script.completes_keyword _)).append
          ((Expr.script_blames bare enclosing right).parensIf _)

theorem Select.script_blames (bare : Bool) (enclosing : List Select) :
    (select : Select) → (select.script (outer.within enclosing)).Blames outer
      (select.parts bare enclosing)
  | ⟨items, chain, filter, ordering, limit, offset, distinct, forUpdate⟩ => by
      apply Select.script_blames_of_clauses
      case source =>
        intro target found named
        cases chain with
        | some chain =>
            have same : target = chain := (Option.some.inj found).symm
            exact Chain.script_blames bare _ chain (same ▸ named)
        | none =>
            obtain ⟨source, first, rfl⟩ := Option.map_eq_some_iff.mp found
            exact SelectItem.firstSource_blames bare _ items first named
      case filtered => exact Expr.script_blames bare _ filter
      case ordered => exact OrderTerm.allBlame bare _ ordering

theorem SelectItem.firstSource_blames (bare : Bool)
    (enclosing : List Select) : (items : List SelectItem) →
      {source : Source} → items.findSome? SelectItem.source? = some source →
      (outer.within enclosing).NamesAll source.aliases →
      (SelectItem.firstSourceScript (outer.within enclosing) items).Blames
        outer (SelectItem.firstParts bare enclosing items)
  | [], _, found, _ => nomatch found
  | .source held :: rest, source, found, named => by
      cases found
      exact Source.script_blames bare enclosing held named
  | .field field :: rest, source, found, named => by
      rw [SelectItem.firstSourceScript, SelectItem.firstParts]
      rw [List.findSome?_cons, SelectItem.source?] at found
      cases unbound : field.binding.isNone with
      | true => exact .of_completes (Script.completes_name _) _
      | false =>
          rw [unbound] at found
          exact SelectItem.firstSource_blames bare enclosing rest found named

theorem OrderTerm.allBlame (bare : Bool) (enclosing : List Select) :
    (terms : List OrderTerm) →
      Script.Share (Script.Blames outer)
        (OrderTerm.scripts (outer.within enclosing) terms)
        (OrderTerm.allParts bare enclosing terms)
  | [] => .nil
  | ⟨expr, direction, none⟩ :: rest => by
      have directed := (Expr.script_blames bare enclosing
        expr).append_of_completes (Script.completes_keyword direction.keyword)
      rw [OrderTerm.scripts, OrderTerm.script]
      exact .cons (directed.cons _) (OrderTerm.allBlame bare enclosing rest)
  | ⟨expr, direction, some nulls⟩ :: rest => by
      have directed := (Expr.script_blames bare enclosing
        expr).append_of_completes (Script.completes_keyword direction.keyword)
      rw [OrderTerm.scripts, OrderTerm.script]
      refine .cons (.cons _ ?_) (OrderTerm.allBlame bare enclosing rest)
      split
      · exact directed.append_of_completes (Script.completes_keyword _)
      · exact .fail (by simp [Context.notSupported]) _

theorem Chain.script_blames (bare : Bool) (enclosing : List Select) :
    (chain : Chain) → (outer.within enclosing).NamesAll chain.aliases →
      (chain.script (outer.within enclosing)).Blames outer
        (chain.parts bare enclosing)
  | .source source, named => Source.script_blames bare enclosing source named
  | .join join, named => Join.script_blames bare enclosing join named

theorem Join.script_blames (bare : Bool) (enclosing : List Select) :
    (join : Join) → (outer.within enclosing).NamesAll join.aliases →
      (join.script (outer.within enclosing)).Blames outer
        (join.parts bare enclosing)
  | ⟨left, kind, right, predicate⟩, named => by
      have first := Chain.script_blames bare enclosing left
        (named.mono (List.subset_append_left _ _))
      have second := Source.script_blames bare enclosing right
        (named.mono (List.subset_append_right _ _))
      have sides := (first.append_of_completes
        (Script.completes_keyword kind.keyword)).append second
      cases predicate with
      | some predicate =>
          rw [Join.script]
          exact (sides.append ((Expr.script_blames bare enclosing
            predicate).of_completes_append (Script.completes_keyword _))).cons _
      | none =>
          rw [Join.script]
          refine (sides.append ?_).cons _
          split
          · exact .fail (by simp) _
          · exact .of_completes Script.completes_nil _

theorem Source.script_blames (bare : Bool) (enclosing : List Select) :
    (source : Source) → (outer.within enclosing).NamesAll source.aliases →
      (source.script (outer.within enclosing)).Blames outer
        (source.parts bare enclosing)
  | .table _, _ => .of_completes (Script.completes_name _) _
  | .aliased renamed, named => Alias.script_blames bare enclosing renamed named

/-- An alias that has a name does not fail for want of it. -/
theorem Alias.script_blames (bare : Bool) (enclosing : List Select) :
    (renamed : Alias) →
      (outer.within enclosing).NamesAll (renamed :: renamed.nested) →
      (renamed.script (outer.within enclosing)).Blames outer
        (renamed.parts bare enclosing)
  | ⟨ref, target⟩, named => by
      obtain ⟨name, found⟩ := named _ List.mem_cons_self
      have inner := AliasTarget.script_blames bare enclosing target
        (named.mono (List.subset_cons_self _ _))
      rw [Alias.script, show
        (outer.within enclosing).nameOfRef ref = .ok name from found]
      exact (inner.append_of_completes
        (Script.completes_keyword _)).append_of_completes
          (Script.completes_name _)

theorem AliasTarget.script_blames (bare : Bool) (enclosing : List Select) :
    (target : AliasTarget) →
      (outer.within enclosing).NamesAll target.nested →
      (target.script (outer.within enclosing)).Blames outer
        (target.parts bare enclosing)
  | .table _, _ => .of_completes (Script.completes_name _) _
  | .join join, named => (Join.script_blames bare enclosing join named).parens
  | .query select, _ => (Select.script_blames bare enclosing select).parens

end

/-! ## Targets -/

namespace Select

/-- Once a statement has registered its aliases, every alias that is written with
its target in its scope has a name there, and is written with one.  A target that
fails for want of a name holds a column that fails so. -/
theorem target_named (context : Context) {select : Select} {chain : Chain}
    (target : select.chain? = some chain)
    (registered : (select.registration context).failure = none) :
    (∀ source ∈ chain.sources, ∀ renamed, source.Names renamed →
      ∃ name,
        (select.names context).nameOf? renamed.ref.id = some name ∧
        renamed.script (select.scope context) =
          renamed.target.script (select.scope context) ++
            Script.keyword .asName ++
              Script.name ⟨[renamed.ref.name.getD name]⟩) ∧
    ∀ id,
      (select.sourceScript (select.scope context)).failure? =
        some (.unnamedAlias id) →
      ∃ placed ∈ select.sourceParts context.bareColumns [select], ∃ field,
        placed.part = .column field ∧
        (field.script (context.within placed.enclosing)).failure? =
          some (.unnamedAlias id) := by
  constructor
  · intro source held renamed names
    have member : renamed ∈ select.aliases := by
      rw [aliases_of_target target]
      exact List.mem_append_right _
        (chain.aliases_subset held names.mem_aliases)
    obtain ⟨name, entry⟩ :=
      AliasNames.registered_of_registerAll registered
        (List.mem_map_of_mem member)
    have found : (select.names context).nameOf? renamed.ref.id = some name :=
      (select.names_distinct context).nameOf?_eq_some_iff.mpr entry
    have resolved : (select.scope context).nameOf renamed.ref.id = .ok name :=
      Context.nameOf_enter_of_some _ found
    refine ⟨name, found, ?_⟩
    obtain ⟨ref, inner⟩ := renamed
    rw [Alias.script, Context.nameOfRef]
    cases ref.name with
    | some own => rfl
    | none =>
        rw [resolved]
        rfl
  · intro id failed
    rw [sourceScript_eq _ target] at failed
    rw [sourceParts_eq _ _ target]
    exact Chain.script_blames context.bareColumns [select] chain
      (namesAll_target registered target) id failed

end Select

/-- Two copies of a table under one alias; one of them has no name. -/
def Source.paired : Source :=
  .aliased ⟨⟨⟨1⟩, none⟩,
    .join ⟨.source (.copy 2 none), .cross, .copy 3 (some "x"), none⟩⟩

theorem Select.target_named_paired :
    ∃ name,
      ((crossed (.plain "person") .paired).names
        (.outermost .generic none)).nameOf? ⟨2⟩ = some name ∧
      ((crossed (.plain "person") .paired).sourceScript
        ((crossed (.plain "person") .paired).scope
          (.outermost .generic none))).Completes := by
  obtain ⟨named, _⟩ := @target_named (.outermost .generic none)
    (crossed (.plain "person") .paired) _ rfl rfl
  obtain ⟨name, found, _⟩ := named .paired
    (List.mem_cons_of_mem _ List.mem_cons_self) _
    (.inside List.mem_cons_self (.itself _))
  exact ⟨name, found, rfl⟩

end SqlWeave
