import SqlWeave.Proofs.Constants.Unchanged
import SqlWeave.Proofs.Defects.Detection
import SqlWeave.Proofs.Relations.Inference

/-!
# Joining the selected sources

A statement can be told to join the next source that it selects and that its
chain does not hold yet.  However often a source is selected, such calls join it
once, in the order in which the sources are first selected, and then there is
nothing left to join.  By then the chain holds what the items come from, so the
statement passes the check of its items (`Select.joins_each_pending`).
-/

namespace SqlWeave

/-! ## Sources without repetitions -/

namespace Source

theorem sameAs_iff {left right : Source} :
    left.sameAs right = true ↔ left.identity = right.identity := by
  rw [sameAs_eq, decide_eq_true_iff]

theorem sameAs_comm (left right : Source) :
    left.sameAs right = right.sameAs left := by
  rw [Bool.eq_iff_iff, sameAs_iff, sameAs_iff, eq_comm]

/-- The sources without those that are the same as one in front of them. -/
def firsts (sources : List Source) : List Source := sources.eraseDupsBy sameAs

theorem firsts_cons (source : Source) (others : List Source) :
    firsts (source :: others) =
      source :: firsts (others.filter fun other => !other.sameAs source) := by
  rw [firsts, List.eraseDupsBy_cons, ← firsts]
  simp only [Bool.decide_eq_false]

theorem head?_firsts (sources : List Source) :
    (firsts sources).head? = sources.head? := by
  cases sources with
  | nil => rfl
  | cons source others => rw [firsts_cons]; rfl

/-- Induction on a list whose repetitions are dropped: a source is followed by
those of the others that do not repeat it. -/
theorem firsts_induction {motive : List Source → Prop} (nil : motive [])
    (cons : ∀ source others,
      motive (others.filter fun other => !other.sameAs source) →
        motive (source :: others)) (sources : List Source) :
    motive sources := by
  match sources with
  | [] => exact nil
  | source :: others =>
      exact cons source others (firsts_induction nil cons _)
termination_by sources.length
decreasing_by exact Nat.lt_succ_of_le (List.length_filter_le _ _)

theorem firsts_sublist (sources : List Source) :
    (firsts sources).Sublist sources := by
  induction sources using firsts_induction with
  | nil => exact .slnil
  | cons first others ih =>
      rw [firsts_cons]
      exact (ih.trans List.filter_sublist).cons_cons first

/-- No two of the sources are the same. -/
theorem pairwise_firsts (sources : List Source) :
    (firsts sources).Pairwise fun left right => right.sameAs left = false := by
  induction sources using firsts_induction with
  | nil => exact .nil
  | cons first others ih =>
      rw [firsts_cons]
      refine .cons (fun other member => ?_) ih
      simpa using (List.mem_filter.mp ((firsts_sublist _).subset member)).2

/-- None of the sources is lost. -/
theorem exists_mem_firsts {source : Source} {sources : List Source}
    (member : source ∈ sources) :
    ∃ first ∈ firsts sources, first.identity = source.identity := by
  induction sources using firsts_induction with
  | nil => cases member
  | cons first others ih =>
      rw [firsts_cons]
      cases same : source.sameAs first with
      | true => exact ⟨first, List.mem_cons_self, (sameAs_iff.mp same).symm⟩
      | false =>
          have later : source ∈
              others.filter fun other => !other.sameAs first := by
            rcases List.mem_cons.mp member with rfl | inside
            · rw [sameAs_iff.mpr rfl] at same
              cases same
            · exact List.mem_filter.mpr ⟨inside, by rw [same, Bool.not_false]⟩
          obtain ⟨kept, inside, agrees⟩ := ih later
          exact ⟨kept, List.mem_cons_of_mem _ inside, agrees⟩

end Source

/-! ## Sources that a chain lacks -/

namespace Chain

/-- The sources that the chain does not hold. -/
def lacking (chain : Chain) (sources : List Source) : List Source :=
  sources.filter fun source => !chain.contains source

theorem contains_congr (chain : Chain) {left right : Source}
    (same : left.identity = right.identity) :
    chain.contains left = chain.contains right := by
  rw [contains_eq, contains_eq, same]

theorem contains_of_lacking_eq_nil {chain : Chain} {sources : List Source}
    (complete : chain.lacking sources = []) {source : Source}
    (member : source ∈ sources) : chain.contains source = true := by
  have held := List.filter_eq_nil_iff.mp complete source member
  rwa [Bool.not_eq_true', Bool.not_eq_false] at held

/-- What a chain lacks first is the first that it lacks, repeated or not. -/
theorem head?_lacking_firsts (chain : Chain) (sources : List Source) :
    (chain.lacking (Source.firsts sources)).head? =
      sources.find? fun source => !chain.contains source := by
  rw [lacking, List.head?_filter]
  induction sources using Source.firsts_induction with
  | nil => rfl
  | cons first others ih =>
      rw [Source.firsts_cons, List.find?_cons, List.find?_cons, ih]
      cases held : chain.contains first with
      | false => rfl
      | true =>
          -- What repeats the first source is held like it.
          rw [List.find?_filter]
          refine congrArg (List.find? · others) (funext fun other => ?_)
          cases same : other.sameAs first with
          | false => simp
          | true =>
              rw [chain.contains_congr (Source.sameAs_iff.mp same), held]
              simp

theorem contains_join (chain : Chain) (kind : JoinKind) (next : Source)
    (predicate : Option Expr) (source : Source) :
    (Chain.join ⟨chain, kind, next, predicate⟩).contains source =
      (chain.contains source || next.sameAs source) := by
  rw [contains, Chain.sources, Join.sources, List.any_append,
    List.any_cons, List.any_nil, Bool.or_false, contains]

/-- A chain that is extended by the first source that it lacks lacks the
others. -/
theorem lacking_join {chain : Chain} {sources rest : List Source}
    {next : Source} (kind : JoinKind) (predicate : Option Expr)
    (distinct : sources.Pairwise fun left right => right.sameAs left = false)
    (lacks : chain.lacking sources = next :: rest) :
    (Chain.join ⟨chain, kind, next, predicate⟩).lacking sources = rest := by
  have later : ∀ other ∈ rest, other.sameAs next = false := by
    have lacked : (chain.lacking sources).Pairwise
        fun left right => right.sameAs left = false :=
      distinct.sublist List.filter_sublist
    rw [lacks] at lacked
    exact (List.pairwise_cons.mp lacked).1
  calc (Chain.join ⟨chain, kind, next, predicate⟩).lacking sources
      = (chain.lacking sources).filter fun other => !other.sameAs next := by
        simp only [lacking, List.filter_filter, contains_join, Bool.not_or,
          Source.sameAs_comm next, Bool.and_comm]
    _ = rest.filter fun other => !other.sameAs next := by
        rw [lacks, List.filter_cons, Source.sameAs_iff.mpr rfl]
        rfl
    _ = rest := by
        refine List.filter_eq_self.mpr fun other member => ?_
        rw [later other member, Bool.not_false]

/-- The chain with inner joins of sources on their predicates behind it. -/
def extend (chain : Chain) (links : List (Source × Expr)) : Chain :=
  links.foldl
    (fun chain link => .join ⟨chain, .inner, link.1, some link.2⟩) chain

/-- A chain that is extended by the sources that it lacks, one for each
predicate, lacks the others. -/
theorem lacking_extend {sources : List Source}
    (distinct : sources.Pairwise fun left right => right.sameAs left = false)
    (chain : Chain) (predicates : List Expr) :
    (chain.extend ((chain.lacking sources).zip predicates)).lacking sources =
      (chain.lacking sources).drop predicates.length := by
  induction predicates generalizing chain with
  | nil => rw [List.zip_nil_right]; rfl
  | cons predicate later ih =>
      cases lacks : chain.lacking sources with
      | nil => exact lacks
      | cons next rest =>
          have step := ih (.join ⟨chain, .inner, next, some predicate⟩)
          rw [lacking_join .inner (some predicate) distinct lacks] at step
          exact step

end Chain

/-! ## Joining one source after the other -/

namespace SelectItem

/-- An item is in a chain that holds its source. -/
theorem isIn_of_source? {item : SelectItem} {source : Source}
    (origin : item.source? = some source) (chain : Chain) :
    item.isIn chain = chain.contains source := by
  cases item with
  | source held =>
      cases origin
      rfl
  | field column =>
      cases bound : column.binding with
      | none =>
          rw [source?, bound] at origin
          cases origin
          rw [isIn, bound]
      | some ref =>
          rw [source?, bound] at origin
          cases origin

/-- Only a column that is bound to an alias names no source. -/
theorem exists_source? (item : SelectItem)
    (unbound : ∀ column, item = .field column → column.binding = none) :
    ∃ source, item.source? = some source := by
  cases item with
  | source held => exact ⟨held, rfl⟩
  | field column =>
      rw [source?, unbound column rfl]
      exact ⟨_, rfl⟩

end SelectItem

namespace Select

/-- The sources of the items, each where it is selected first. -/
def selectedSources (select : Select) : List Source :=
  Source.firsts (select.items.filterMap SelectItem.source?)

theorem pairwise_selectedSources (select : Select) :
    select.selectedSources.Pairwise
      fun left right => right.sameAs left = false :=
  Source.pairwise_firsts _

/-- The sources of the chain, or else the first source that is selected. -/
def startingSources (select : Select) : List Source :=
  match select.chain with
  | some chain => chain.sources
  | none => select.selectedSources.take 1

/-- The selected sources that the statement does not start from. -/
def pendingSources (select : Select) : List Source :=
  select.selectedSources.filter fun source =>
    !select.startingSources.any fun held => held.sameAs source

/-- Join the next source on each of the predicates, one after the other. -/
def joinEach (select : Select) : List Expr → Except QueryError Select
  | [] => .ok select
  | predicate :: later => do
      let joined ← select.joinNext predicate
      joined.joinEach later

variable {select joined : Select} {chain : Chain} {predicate : Expr}
variable {predicates later : List Expr}

theorem startingSources_of_chain? (target : select.chain? = some chain) :
    select.startingSources = chain.sources := by
  rw [chain?] at target
  rw [startingSources]
  cases stated : select.chain with
  | some held =>
      rw [stated] at target
      cases target
      rfl
  | none =>
      rw [stated] at target
      obtain ⟨source, first, rfl⟩ := Option.map_eq_some_iff.mp target
      simp only [selectedSources, List.take_one, Source.head?_firsts,
        List.head?_filterMap, first]
      rfl

theorem pendingSources_of_chain? (target : select.chain? = some chain) :
    select.pendingSources = chain.lacking select.selectedSources := by
  rw [pendingSources, startingSources_of_chain? target]
  rfl

theorem pendingSources_of_chain?_none (sourceless : select.chain? = none) :
    select.pendingSources = [] := by
  have none_selected : select.items.filterMap SelectItem.source? = [] :=
    List.filterMap_eq_nil_iff.mpr
      (select.chain?_eq_none_iff.mp sourceless).2
  rw [pendingSources, selectedSources, none_selected]
  rfl

/-! ### One call -/

theorem joinNext_of_chain?_none (sourceless : select.chain? = none) :
    select.joinNext predicate = .error (.incomplete .nothingToJoin) := by
  rw [joinNext, joinBase, sourceless]
  rfl

/-- The next source is the first that the chain lacks. -/
theorem joinNext_of_chain? (target : select.chain? = some chain)
    (predicate : Expr) :
    select.joinNext predicate =
      match (chain.lacking select.selectedSources).head? with
      | some next => .ok (select.selectFrom
          (.join ⟨chain, .inner, next, some predicate⟩))
      | none => .error (.incomplete .allJoined) := by
  rw [joinNext, joinBase, target, selectedSources, chain.head?_lacking_firsts]
  rfl

theorem joinEach_cons_of_chain?_none (sourceless : select.chain? = none) :
    select.joinEach (predicate :: later) =
      .error (.incomplete .nothingToJoin) := by
  rw [joinEach, joinNext_of_chain?_none sourceless]
  rfl

theorem joinEach_cons_of_lacking {next : Source} {rest : List Source}
    (target : select.chain? = some chain)
    (lacks : chain.lacking select.selectedSources = next :: rest) :
    select.joinEach (predicate :: later) =
      (select.selectFrom
        (.join ⟨chain, .inner, next, some predicate⟩)).joinEach later := by
  rw [joinEach, joinNext_of_chain? target, lacks]
  rfl

theorem joinEach_cons_of_complete (target : select.chain? = some chain)
    (complete : chain.lacking select.selectedSources = []) :
    select.joinEach (predicate :: later) =
      .error (.incomplete .allJoined) := by
  rw [joinEach, joinNext_of_chain? target, complete]
  rfl

/-! ### Many calls -/

/-- A call takes the first source off those that the chain lacks. -/
theorem lacking_selectFrom {next : Source} {rest : List Source}
    (lacks : chain.lacking select.selectedSources = next :: rest) :
    (Chain.join ⟨chain, .inner, next, some predicate⟩).lacking
      (select.selectFrom
        (.join ⟨chain, .inner, next, some predicate⟩)).selectedSources = rest :=
  Chain.lacking_join .inner (some predicate) select.pairwise_selectedSources
    lacks

theorem exists_joinEach_eq_ok_iff (target : select.chain? = some chain) :
    (∃ joined, select.joinEach predicates = .ok joined) ↔
      predicates.length ≤ (chain.lacking select.selectedSources).length := by
  induction predicates generalizing select chain with
  | nil => simp [joinEach]
  | cons predicate later ih =>
      cases lacks : chain.lacking select.selectedSources with
      | nil => simp [joinEach_cons_of_complete target lacks]
      | cons next rest =>
          rw [joinEach_cons_of_lacking target lacks, ih rfl,
            lacking_selectFrom lacks, List.length_cons, List.length_cons,
            Nat.succ_le_succ_iff]

/-- Calls change nothing of a statement but its chain, to which they add the
sources that it lacks, one for each predicate. -/
theorem joinEach_extends (target : select.chain? = some chain)
    (made : select.joinEach predicates = .ok joined) :
    joined = { select with chain := joined.chain } ∧
      joined.chain? = some (chain.extend
        ((chain.lacking select.selectedSources).zip predicates)) := by
  induction predicates generalizing select chain with
  | nil =>
      cases made
      rw [List.zip_nil_right]
      exact ⟨by cases joined; rfl, target⟩
  | cons predicate later ih =>
      cases lacks : chain.lacking select.selectedSources with
      | nil =>
          rw [joinEach_cons_of_complete target lacks] at made
          cases made
      | cons next rest =>
          rw [joinEach_cons_of_lacking target lacks] at made
          obtain ⟨frame, extended⟩ := ih rfl made
          rw [lacking_selectFrom lacks] at extended
          exact ⟨frame, extended⟩

theorem missingItem?_eq_none_of_lacking_eq_nil
    (complete : chain.lacking select.selectedSources = [])
    (unbound : ∀ column, .field column ∈ select.items →
      column.binding = none) :
    select.missingItem? chain = none := by
  rw [missingItem?, List.find?_eq_none]
  intro item selected
  obtain ⟨source, origin⟩ :=
    item.exists_source? fun column same => unbound column (same ▸ selected)
  obtain ⟨first, member, same⟩ := Source.exists_mem_firsts
    (List.mem_filterMap.mpr ⟨item, selected, origin⟩)
  rw [SelectItem.isIn_of_source? origin, ← chain.contains_congr same,
    Chain.contains_of_lacking_eq_nil complete member]
  decide

/-- After one call for each source that the chain lacks, it lacks none. -/
theorem lacking_of_joinEach (target : select.chain? = some chain)
    (made : select.joinEach predicates = .ok joined)
    (enough : predicates.length =
      (chain.lacking select.selectedSources).length) :
    ∃ longer, joined.chain? = some longer ∧ joined.items = select.items ∧
      longer.lacking joined.selectedSources = [] := by
  obtain ⟨frame, extended⟩ := joinEach_extends target made
  have items : joined.items = select.items := by rw [frame]
  have sources : joined.selectedSources = select.selectedSources :=
    congrArg (Source.firsts ∘ List.filterMap SelectItem.source?) items
  refine ⟨_, extended, items, ?_⟩
  rw [sources, Chain.lacking_extend select.pairwise_selectedSources, enough,
    List.drop_length]

/-- As many calls succeed as there are selected sources that the statement does
not start from.  They join the first of these sources, in order, and change
nothing else.  Once all are joined, another call fails, and if no item is a
column that is bound to an alias, then the check of the items passes. -/
theorem joins_each_pending (select : Select) (predicates : List Expr) :
    ((∃ joined, select.joinEach predicates = .ok joined) ↔
      predicates.length ≤ select.pendingSources.length) ∧
    ∀ joined, select.joinEach predicates = .ok joined →
      joined = { select with chain := joined.chain } ∧
      joined.chain? = select.chain?.map
        (·.extend (select.pendingSources.zip predicates)) ∧
      (predicates.length = select.pendingSources.length →
        (∀ next, joined.joinNext next = .error (.incomplete
          (if select.chain?.isSome then .allJoined else .nothingToJoin))) ∧
        ((∀ column, .field column ∈ select.items → column.binding = none) →
          ∀ target, joined.chain? = some target →
            joined.missingItem? target = none)) := by
  cases target : select.chain? with
  | none =>
      rw [pendingSources_of_chain?_none target]
      cases predicates with
      | nil =>
          refine ⟨by simp [joinEach], ?_⟩
          rintro joined ⟨⟩
          refine ⟨by cases select; rfl, target, fun _ => ⟨?_, ?_⟩⟩
          · exact fun next => joinNext_of_chain?_none target
          · intro _ held stated
            rw [target] at stated
            cases stated
      | cons predicate later =>
          simp [joinEach_cons_of_chain?_none target]
  | some chain =>
      rw [pendingSources_of_chain? target]
      refine ⟨exists_joinEach_eq_ok_iff target, fun joined made => ?_⟩
      obtain ⟨frame, extended⟩ := joinEach_extends target made
      refine ⟨frame, extended, fun enough => ?_⟩
      obtain ⟨longer, reached, items, complete⟩ :=
        lacking_of_joinEach target made enough
      constructor
      · intro next
        rw [joinNext_of_chain? reached, complete]
        rfl
      · intro unbound held stated
        rw [reached] at stated
        cases stated
        rw [← items] at unbound
        exact missingItem?_eq_none_of_lacking_eq_nil complete unbound

/-- Employees and the keys of departments, the employees twice. -/
def assignments : Select :=
  ofItems [.source (.table .employees),
    .field (.ofIndex .departments ⟨0, Nat.one_pos⟩),
    .source (.table .employees)]

/-- The departments are joined to the employees, and that is all. -/
theorem joins_each_pending_assignments :
    assignments.pendingSources = [.table .departments] ∧
    ∃ joined, assignments.joinEach [.worksIn] = .ok joined ∧
      joined.chain? = some (.join
        ⟨.source (.table .employees), .inner, .table .departments,
          some .worksIn⟩) ∧
      (∀ next, joined.joinNext next = .error (.incomplete .allJoined)) ∧
      ∀ target, joined.chain? = some target →
        joined.missingItem? target = none := by
  have pending : assignments.pendingSources = [.table .departments] := rfl
  have unbound : ∀ column, .field column ∈ assignments.items →
      column.binding = none := by
    intro column selected
    simp only [assignments, ofItems, List.mem_cons, SelectItem.field.injEq,
      reduceCtorEq, List.not_mem_nil, false_or, or_false] at selected
    rw [selected]
    rfl
  obtain ⟨possible, result⟩ := joins_each_pending assignments [.worksIn]
  obtain ⟨joined, made⟩ := possible.mpr (by rw [pending]; decide)
  obtain ⟨_, extended, complete⟩ := result joined made
  obtain ⟨finished, checked⟩ := complete (by rw [pending]; rfl)
  rw [pending] at extended
  exact ⟨pending, joined, made, extended, finished, checked unbound⟩

end Select

end SqlWeave
