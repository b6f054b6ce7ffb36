import SqlWeave.Proofs.Constants.Variation
import SqlWeave.Proofs.Script.Scope

/-!
# What a variation leaves alone

Statements that differ in their constants have the same columns, register the
same aliases and pass the same checks: nothing of this looks at a constant.
-/

namespace SqlWeave

/-! ## Columns -/

mutual

theorem Source.Varies.fields_eq : {first second : Source} →
    {slots : List Slot} → first.Varies second slots →
      first.fields = second.fields
  | _, _, _, .table _ => rfl
  | _, _, _, .aliased varies => by
      rw [Source.fields, Source.fields]
      exact varies.fields_eq

theorem Alias.Varies.fields_eq : {first second : Alias} →
    {slots : List Slot} → first.Varies second slots →
      first.fields = second.fields
  | _, _, _, .mk ref varies => by
      rw [Alias.fields, Alias.fields, varies.fields_eq]

theorem AliasTarget.Varies.fields_eq : {first second : AliasTarget} →
    {slots : List Slot} → first.Varies second slots →
      first.fields = second.fields
  | _, _, _, .table _ => rfl
  | _, _, _, .join varies => by
      rw [AliasTarget.fields, AliasTarget.fields]
      exact varies.fields_eq
  | _, _, _, .query varies => by
      rw [AliasTarget.fields, AliasTarget.fields]
      exact varies.projection_eq

theorem Join.Varies.fields_eq : {first second : Join} →
    {slots : List Slot} → first.Varies second slots →
      first.fields = second.fields
  | _, _, _, .mk _ left right _ => by
      rw [Join.fields, Join.fields, left.fields_eq, right.fields_eq]

theorem Chain.Varies.fields_eq : {first second : Chain} →
    {slots : List Slot} → first.Varies second slots →
      first.fields = second.fields
  | _, _, _, .source varies => by
      rw [Chain.fields, Chain.fields]
      exact varies.fields_eq
  | _, _, _, .join varies => by
      rw [Chain.fields, Chain.fields]
      exact varies.fields_eq

theorem Select.Varies.projection_eq : {first second : Select} →
    {slots : List Slot} → first.Varies second slots →
      first.projection = second.projection
  | _, _, _, .mk _ _ items _ _ _ _ _ _ => by
      rw [Select.projection, Select.projection]
      exact items.allFields_eq

theorem SelectItem.AllVary.allFields_eq : {items items' : List SelectItem} →
    {slots : List Slot} → SelectItem.AllVary items items' slots →
      SelectItem.allFields items = SelectItem.allFields items'
  | _, _, _, .nil => rfl
  | _, _, _, .source varies rest => by
      rw [SelectItem.allFields, SelectItem.allFields, SelectItem.fields,
        SelectItem.fields, varies.fields_eq, rest.allFields_eq]
  | _, _, _, .field _ rest => by
      rw [SelectItem.allFields, SelectItem.allFields, rest.allFields_eq]

end

theorem SelectItem.AllVary.isEmpty_eq {items items' : List SelectItem}
    {slots : List Slot} (vary : SelectItem.AllVary items items' slots) :
    items.isEmpty = items'.isEmpty := by
  cases vary <;> rfl

/-! ## Aliases -/

mutual

theorem Source.Varies.refs_eq : {first second : Source} →
    {slots : List Slot} → first.Varies second slots →
      first.aliases.map Alias.ref = second.aliases.map Alias.ref
  | _, _, _, .table _ => rfl
  | _, _, _, .aliased varies => by
      rw [Source.aliases, Source.aliases, List.map_cons, List.map_cons,
        varies.ref_eq, varies.refs_eq]

theorem Alias.Varies.ref_eq : {first second : Alias} →
    {slots : List Slot} → first.Varies second slots → first.ref = second.ref
  | _, _, _, .mk _ _ => rfl

theorem Alias.Varies.refs_eq : {first second : Alias} →
    {slots : List Slot} → first.Varies second slots →
      first.nested.map Alias.ref = second.nested.map Alias.ref
  | _, _, _, .mk _ varies => by
      rw [Alias.nested, Alias.nested]
      exact varies.refs_eq

theorem AliasTarget.Varies.refs_eq : {first second : AliasTarget} →
    {slots : List Slot} → first.Varies second slots →
      first.nested.map Alias.ref = second.nested.map Alias.ref
  | _, _, _, .table _ => rfl
  | _, _, _, .join varies => by
      rw [AliasTarget.nested, AliasTarget.nested]
      exact varies.refs_eq
  | _, _, _, .query _ => rfl

theorem Join.Varies.refs_eq : {first second : Join} →
    {slots : List Slot} → first.Varies second slots →
      first.aliases.map Alias.ref = second.aliases.map Alias.ref
  | _, _, _, .mk _ left right _ => by
      rw [Join.aliases, Join.aliases, List.map_append, List.map_append,
        left.refs_eq, right.refs_eq]

theorem Chain.Varies.refs_eq : {first second : Chain} →
    {slots : List Slot} → first.Varies second slots →
      first.aliases.map Alias.ref = second.aliases.map Alias.ref
  | _, _, _, .source varies => by
      rw [Chain.aliases, Chain.aliases]
      exact varies.refs_eq
  | _, _, _, .join varies => by
      rw [Chain.aliases, Chain.aliases]
      exact varies.refs_eq

end

/-! ## Checks -/

/-- What tells a source from other sources. -/
def Source.identity : Source → TableId ⊕ AliasId
  | table declared => .inl declared.id
  | aliased renamed => .inr renamed.ref.id

theorem Source.sameAs_eq (left right : Source) :
    left.sameAs right = decide (left.identity = right.identity) := by
  rw [Bool.eq_iff_iff]
  cases left <;> cases right <;>
    simp [sameAs, identity, Table.sameAs, Alias.sameAs]

/-- What tells the sources of a chain from other sources. -/
def Chain.identities (chain : Chain) : List (TableId ⊕ AliasId) :=
  chain.sources.map Source.identity

theorem Chain.contains_eq (chain : Chain) (source : Source) :
    chain.contains source =
      chain.identities.any fun held => decide (held = source.identity) := by
  rw [contains, identities, List.any_map]
  congr 1
  funext held
  exact held.sameAs_eq source

theorem Chain.holdsAlias_eq (chain : Chain) (id : AliasId) :
    chain.holdsAlias id =
      chain.identities.any fun held => decide (held = .inr id) := by
  rw [holdsAlias, identities, List.any_map]
  congr 1
  funext held
  rw [Bool.eq_iff_iff]
  cases held <;> simp [Source.identity]

theorem Source.Varies.identity_eq {first second : Source}
    {slots : List Slot} (varies : first.Varies second slots) :
    first.identity = second.identity := by
  cases varies with
  | table declared => rfl
  | aliased inner => rw [identity, identity, inner.ref_eq]

theorem Source.Varies.display_eq {first second : Source}
    {slots : List Slot} (varies : first.Varies second slots) :
    first.display = second.display := by
  cases varies with
  | table declared => rfl
  | aliased inner => exact congrArg AliasRef.display inner.ref_eq

mutual

theorem Chain.Varies.identities_eq : {first second : Chain} →
    {slots : List Slot} → first.Varies second slots →
      first.sources.map Source.identity = second.sources.map Source.identity
  | _, _, _, .source varies => by
      rw [Chain.sources, Chain.sources, List.map_singleton, List.map_singleton,
        varies.identity_eq]
  | _, _, _, .join varies => by
      rw [Chain.sources, Chain.sources]
      exact varies.identities_eq

theorem Join.Varies.identities_eq : {first second : Join} →
    {slots : List Slot} → first.Varies second slots →
      first.sources.map Source.identity = second.sources.map Source.identity
  | _, _, _, .mk _ left right _ => by
      rw [Join.sources, Join.sources, List.map_append, List.map_append,
        List.map_singleton, List.map_singleton, left.identities_eq,
        right.identity_eq]

end

/-- Chains of the same sources lack the same items. -/
theorem SelectItem.AllVary.missing_eq {chain chain' : Chain}
    (same : chain.identities = chain'.identities) :
    {items items' : List SelectItem} → {slots : List Slot} →
      SelectItem.AllVary items items' slots →
      (items.find? fun item => !item.isIn chain).map SelectItem.display =
        (items'.find? fun item => !item.isIn chain').map SelectItem.display
  | _, _, _, .nil => rfl
  | _, _, _, @SelectItem.AllVary.source first second _ _ _ _ varies rest => by
      have held : (SelectItem.source first).isIn chain =
          (SelectItem.source second).isIn chain' := by
        rw [SelectItem.isIn, SelectItem.isIn, Chain.contains_eq,
          Chain.contains_eq, same, varies.identity_eq]
      rw [List.find?_cons, List.find?_cons, held]
      split
      · exact congrArg some varies.display_eq
      · exact rest.missing_eq same
  | _, _, _, .field column rest => by
      have held : (SelectItem.field column).isIn chain =
          (SelectItem.field column).isIn chain' := by
        rw [SelectItem.isIn, SelectItem.isIn]
        split
        · rw [Chain.holdsAlias_eq, Chain.holdsAlias_eq, same]
        · rw [Chain.contains_eq, Chain.contains_eq, same]
      rw [List.find?_cons, List.find?_cons, held]
      split
      · rfl
      · exact rest.missing_eq same

/-! ## Targets -/

theorem SelectItem.AllVary.itemRefs_eq : {items items' : List SelectItem} →
    {slots : List Slot} → SelectItem.AllVary items items' slots →
      (items.flatMap SelectItem.aliases).map Alias.ref =
        (items'.flatMap SelectItem.aliases).map Alias.ref
  | _, _, _, .nil => rfl
  | _, _, _, .source varies rest => by
      rw [List.flatMap_cons, List.flatMap_cons, List.map_append,
        List.map_append, rest.itemRefs_eq]
      exact congrArg (· ++ _) varies.refs_eq
  | _, _, _, .field _ rest => rest.itemRefs_eq

/-- The first items that have sources have sources that vary. -/
theorem SelectItem.AllVary.sources_vary : {items items' : List SelectItem} →
    {slots : List Slot} → SelectItem.AllVary items items' slots →
      items.findSome? SelectItem.source? = none ∧
          items'.findSome? SelectItem.source? = none ∨
        ∃ source source' sourceSlots,
          items.findSome? SelectItem.source? = some source ∧
          items'.findSome? SelectItem.source? = some source' ∧
          source.Varies source' sourceSlots
  | _, _, _, .nil => .inl ⟨rfl, rfl⟩
  | _, _, _, .source varies _ => .inr ⟨_, _, _, rfl, rfl, varies⟩
  | _, _, _, .field column rest => by
      rw [List.findSome?_cons, List.findSome?_cons]
      cases own : (SelectItem.field column).source? with
      | some source =>
          have declared : source = .table column.table := by
            rw [SelectItem.source?] at own
            split at own
            · exact (Option.some.inj own).symm
            · cases own
          rw [declared]
          exact .inr ⟨_, _, _, rfl, rfl, .table column.table⟩
      | none => exact rest.sources_vary

/-- Statements that vary select from chains that vary. -/
theorem Select.Varies.targets_vary {first second : Select} {slots : List Slot}
    (varies : first.Varies second slots) :
    first.chain? = none ∧ second.chain? = none ∨
      ∃ chain chain' chainSlots, first.chain? = some chain ∧
        second.chain? = some chain' ∧ chain.Varies chain' chainSlots := by
  cases varies with
  | mk _ _ items target =>
      cases target with
      | some _ chain => exact .inr ⟨_, _, _, rfl, rfl, chain⟩
      | none =>
          rcases items.sources_vary with
            ⟨missing, missing'⟩ | ⟨source, source', slots, held, held', vary⟩
          · simp [Select.chain?, missing, missing']
          · simp only [Select.chain?, held, held', Option.map_some]
            exact .inr ⟨_, _, _, rfl, rfl, .source vary⟩

theorem Select.Varies.missing_eq {first second : Select} {slots : List Slot}
    (varies : first.Varies second slots) {chain chain' : Chain}
    {chainSlots : List Slot} (chains : chain.Varies chain' chainSlots) :
    (first.missingItem? chain).map SelectItem.display =
      (second.missingItem? chain').map SelectItem.display := by
  cases varies with
  | mk _ _ items => exact items.missing_eq chains.identities_eq

theorem Select.Varies.aliasRefs_eq {first second : Select} {slots : List Slot}
    (varies : first.Varies second slots) {chain chain' : Chain}
    {chainSlots : List Slot} (target : first.chain? = some chain)
    (target' : second.chain? = some chain')
    (chains : chain.Varies chain' chainSlots) :
    first.aliases.map Alias.ref = second.aliases.map Alias.ref := by
  rw [Select.aliases_of_target target, Select.aliases_of_target target',
    List.map_append, List.map_append, chains.refs_eq]
  cases varies with
  | mk _ _ items => rw [items.itemRefs_eq]

end SqlWeave
