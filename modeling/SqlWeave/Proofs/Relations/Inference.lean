import Mathlib.Data.List.Forall2
import SqlWeave.Query.Select

/-!
# Inferred predicates

A join whose kind needs a predicate and that is given none looks for a relation
between the new source and the chain.  The search goes from the last source of
the chain to the first and ends with the first that is related, so the predicate
is that of the latest related source; without one, the error is that of the last
source.  Each link that such calls add to a chain has a predicate if its kind
needs one (`Chain.joins_inferred`).
-/

namespace SqlWeave

/-! ## The search -/

namespace RelationLookup

/-- The lookup finds a predicate for the two sources. -/
def Relates (lookup : RelationLookup) (left right : Source) : Prop :=
  ∃ predicate, lookup left right = .ok predicate

variable {lookup : RelationLookup} {left right : Source} {predicate : Expr}

theorem toOption_eq_some_iff :
    (lookup left right).toOption = some predicate ↔
      lookup left right = .ok predicate := by
  cases lookup left right <;> simp [Except.toOption]

theorem toOption_eq_none_iff :
    (lookup left right).toOption = none ↔ ¬ lookup.Relates left right := by
  rw [Relates]
  cases lookup left right <;> simp [Except.toOption]

end RelationLookup

namespace Chain

variable {lookup : RelationLookup} {chain : Chain} {source : Source}
variable {predicate : Expr} {error : QueryError}

/-- Of the sources of the chain that are related to the new one, the latest is
related to it by the predicate. -/
def LatestRelation (lookup : RelationLookup) (chain : Chain) (source : Source)
    (predicate : Expr) : Prop :=
  ∃ before candidate after,
    chain.sources = before ++ candidate :: after ∧
    lookup candidate source = .ok predicate ∧
    ∀ later ∈ after, ¬ lookup.Relates later source

/-- No source of the chain is related to the new one, and the error is that of
the last source. -/
def Unrelated (lookup : RelationLookup) (chain : Chain) (source : Source)
    (error : QueryError) : Prop :=
  (∀ candidate ∈ chain.sources, ¬ lookup.Relates candidate source) ∧
  ∃ last, chain.sources.getLast? = some last ∧
    lookup last source = .error error

theorem sources_ne_nil (chain : Chain) : chain.sources ≠ [] := by
  cases chain with
  | source held => exact List.cons_ne_nil _ _
  | join join =>
      obtain ⟨left, kind, right, predicate⟩ := join
      exact List.append_ne_nil_of_right_ne_nil _ (List.cons_ne_nil _ _)

/-- The others may give the answer of a candidate that is not related, but not
its error. -/
theorem firstRelation_cons (lookup : RelationLookup)
    (source candidate : Source) (others : List Source) :
    firstRelation lookup source (candidate :: others) =
      match lookup candidate source, firstRelation lookup source others with
      | .ok predicate, _ => .ok predicate
      | .error _, .ok predicate => .ok predicate
      | .error error, .error _ => .error error := by
  cases others with
  | nil =>
      rw [firstRelation, firstRelation]
      cases lookup candidate source <;> rfl
  | cons next rest =>
      rw [firstRelation]
      · cases lookup candidate source with
        | ok predicate => rfl
        | error error =>
            cases firstRelation lookup source (next :: rest) <;> rfl
      · exact List.cons_ne_nil _ _

theorem toOption_firstRelation (lookup : RelationLookup) (source : Source)
    (candidates : List Source) :
    (firstRelation lookup source candidates).toOption =
      candidates.findSome? fun candidate =>
        (lookup candidate source).toOption := by
  induction candidates with
  | nil => rfl
  | cons candidate others ih =>
      rw [firstRelation_cons, List.findSome?_cons, ← ih]
      cases lookup candidate source with
      | ok predicate => rfl
      | error error => cases firstRelation lookup source others <;> rfl

theorem firstRelation_eq_ok_iff {candidates : List Source} :
    firstRelation lookup source candidates = .ok predicate ↔
      candidates.findSome? (fun candidate =>
        (lookup candidate source).toOption) = some predicate := by
  rw [← toOption_firstRelation]
  cases firstRelation lookup source candidates <;> simp [Except.toOption]

theorem exists_firstRelation_eq_error_iff {candidates : List Source} :
    (∃ error, firstRelation lookup source candidates = .error error) ↔
      ∀ candidate ∈ candidates, ¬ lookup.Relates candidate source := by
  have silent : (firstRelation lookup source candidates).toOption = none ↔
      ∀ candidate ∈ candidates, ¬ lookup.Relates candidate source := by
    rw [toOption_firstRelation, List.findSome?_eq_none_iff]
    exact forall₂_congr fun _ _ => RelationLookup.toOption_eq_none_iff
  rw [← silent]
  cases firstRelation lookup source candidates <;> simp [Except.toOption]

theorem error_of_firstRelation_cons {candidate : Source}
    {others : List Source}
    (failed : firstRelation lookup source (candidate :: others) =
      .error error) :
    lookup candidate source = .error error := by
  rw [firstRelation_cons] at failed
  cases answer : lookup candidate source with
  | ok predicate =>
      rw [answer] at failed
      cases failed
  | error own =>
      rw [answer] at failed
      cases rest : firstRelation lookup source others with
      | ok predicate =>
          rw [rest] at failed
          cases failed
      | error other =>
          rw [rest] at failed
          exact failed

/-- The search runs over the sources in reverse, so it stops at the latest that
is related. -/
theorem latestRelation_iff :
    firstRelation lookup source chain.sources.reverse = .ok predicate ↔
      chain.LatestRelation lookup source predicate := by
  rw [firstRelation_eq_ok_iff, List.findSome?_eq_some_iff]
  constructor
  · rintro ⟨skipped, candidate, rest, order, related, silent⟩
    rw [List.reverse_eq_append_iff, List.reverse_cons, List.append_assoc]
      at order
    refine ⟨rest.reverse, candidate, skipped.reverse, order,
      RelationLookup.toOption_eq_some_iff.mp related, ?_⟩
    intro later member
    exact RelationLookup.toOption_eq_none_iff.mp
      (silent later (List.mem_reverse.mp member))
  · rintro ⟨before, candidate, after, order, related, silent⟩
    refine ⟨after.reverse, candidate, before.reverse, ?_,
      RelationLookup.toOption_eq_some_iff.mpr related, ?_⟩
    · simp [order]
    · intro later member
      exact RelationLookup.toOption_eq_none_iff.mpr
        (silent later (List.mem_reverse.mp member))

/-- The last source is the first that is asked, and only its error is kept. -/
theorem unrelated_iff :
    firstRelation lookup source chain.sources.reverse = .error error ↔
      chain.Unrelated lookup source error := by
  obtain ⟨earlier, last, order⟩ :=
    (List.eq_nil_or_concat chain.sources).resolve_left chain.sources_ne_nil
  have reversed : chain.sources.reverse = last :: earlier.reverse := by
    simp [order]
  have ends : chain.sources.getLast? = some last := by
    simp [order]
  constructor
  · intro failed
    refine ⟨?_, last, ends, ?_⟩
    · intro candidate member
      exact exists_firstRelation_eq_error_iff.mp ⟨error, failed⟩ candidate
        (List.mem_reverse.mpr member)
    · rw [reversed] at failed
      exact error_of_firstRelation_cons failed
  · rintro ⟨silent, last', ends', failed⟩
    rw [ends] at ends'
    cases ends'
    obtain ⟨error', found⟩ := exists_firstRelation_eq_error_iff.mpr
      fun candidate member => silent candidate (List.mem_reverse.mp member)
    rw [found]
    rw [reversed] at found
    rw [error_of_firstRelation_cons found] at failed
    exact failed

/-! ## Single joins -/

/-- A kind that needs no predicate is joined without looking for one. -/
theorem joinUsing_of_free (chain : Chain) (source : Source) {kind : JoinKind}
    (free : kind.needsPredicate = false) (lookup : RelationLookup) :
    chain.joinUsing source kind lookup = .ok ⟨chain, kind, source, none⟩ := by
  rw [joinUsing, free]
  rfl

theorem joinUsing_of_needs (chain : Chain) (source : Source) {kind : JoinKind}
    (needs : kind.needsPredicate = true) (lookup : RelationLookup) :
    chain.joinUsing source kind lookup =
      (firstRelation lookup source chain.sources.reverse).map
        fun predicate => ⟨chain, kind, source, some predicate⟩ := by
  rw [joinUsing, needs]
  rfl

variable {kind : JoinKind} {join : Join}

theorem joinUsing_eq_ok_iff (needs : kind.needsPredicate = true) :
    chain.joinUsing source kind lookup = .ok join ↔
      ∃ predicate, chain.LatestRelation lookup source predicate ∧
        join = ⟨chain, kind, source, some predicate⟩ := by
  rw [joinUsing_of_needs chain source needs]
  simp only [← latestRelation_iff]
  cases firstRelation lookup source chain.sources.reverse with
  | ok found => simp [Except.map, eq_comm]
  | error error => simp [Except.map]

theorem joinUsing_eq_error_iff (needs : kind.needsPredicate = true) :
    chain.joinUsing source kind lookup = .error error ↔
      chain.Unrelated lookup source error := by
  rw [joinUsing_of_needs chain source needs, ← unrelated_iff]
  cases firstRelation lookup source chain.sources.reverse <;> simp [Except.map]

theorem exists_joinUsing_eq_ok_iff (needs : kind.needsPredicate = true) :
    (∃ join, chain.joinUsing source kind lookup = .ok join) ↔
      ∃ candidate ∈ chain.sources, lookup.Relates candidate source := by
  have silent : (∃ error, firstRelation lookup source chain.sources.reverse =
        .error error) ↔
      ¬ ∃ candidate ∈ chain.sources, lookup.Relates candidate source := by
    rw [exists_firstRelation_eq_error_iff]
    simp
  rw [joinUsing_of_needs chain source needs, ← not_iff_not, ← silent]
  cases firstRelation lookup source chain.sources.reverse <;> simp [Except.map]

end Chain

/-! ## Sequences of joins -/

/-- A call that joins one more source. -/
inductive JoinCall where
  /-- Join on a predicate, or on a declared relation without one. -/
  | on (source : Source) (kind : JoinKind) (predicate : Option Expr)
  /-- Join on a relation that the lookup finds. -/
  | related (source : Source) (kind : JoinKind) (lookup : RelationLookup)

namespace JoinCall

/-- The source that is joined. -/
def source : JoinCall → Source
  | on source _ _ | related source _ _ => source

/-- The kind of the join. -/
def kind : JoinCall → JoinKind
  | on _ kind _ | related _ kind _ => kind

end JoinCall

/-- The link is of the kind and to the source that the call asks for, and it has
a predicate if its kind needs one. -/
structure Join.Answers (link : Join) (call : JoinCall) : Prop where
  kind : link.kind = call.kind
  right : link.right = call.source
  predicated : link.kind.needsPredicate = true →
    ∃ predicate, link.predicate = some predicate

mutual

/-- The links of a chain in the order in which they were added. -/
def Chain.links : Chain → List Join
  | .source _ => []
  | .join join => join.links

/-- The links of a chain that ends with this one. -/
def Join.links : Join → List Join
  | ⟨left, kind, right, predicate⟩ =>
      left.links ++ [⟨left, kind, right, predicate⟩]

end

theorem Join.links_eq (join : Join) :
    join.links = join.left.links ++ [join] := by
  cases join
  rfl

namespace Chain

/-- Extend the chain by one call. -/
def joinBy (chain : Chain) : JoinCall → Except QueryError Join
  | .on right kind predicate => chain.joinOn right kind predicate
  | .related right kind lookup => chain.joinUsing right kind lookup

/-- Extend the chain by calls, one after the other. -/
def joinAll (chain : Chain) : List JoinCall → Except QueryError Chain
  | [] => .ok chain
  | call :: rest => do
      let join ← chain.joinBy call
      (Chain.join join).joinAll rest

variable {chain target : Chain} {join : Join}

theorem joinUsing_answers {source : Source} {kind : JoinKind}
    {lookup : RelationLookup}
    (joined : chain.joinUsing source kind lookup = .ok join) :
    join.left = chain ∧ join.Answers (.related source kind lookup) := by
  cases needs : kind.needsPredicate with
  | false =>
      rw [joinUsing_of_free chain source needs] at joined
      cases joined
      exact ⟨rfl, rfl, rfl, fun asked => absurd (needs ▸ asked) nofun⟩
  | true =>
      obtain ⟨predicate, _, rfl⟩ := (joinUsing_eq_ok_iff needs).mp joined
      exact ⟨rfl, rfl, rfl, fun _ => ⟨predicate, rfl⟩⟩

/-- One call adds one link, to the chain as it was. -/
theorem joinBy_answers {call : JoinCall}
    (joined : chain.joinBy call = .ok join) :
    join.left = chain ∧ join.Answers call := by
  cases call with
  | related source kind lookup => exact joinUsing_answers joined
  | on source kind predicate =>
      cases predicate with
      | some predicate =>
          cases joined
          exact ⟨rfl, rfl, rfl, fun _ => ⟨predicate, rfl⟩⟩
      | none =>
          obtain ⟨left, answers⟩ := joinUsing_answers joined
          exact ⟨left, answers.kind, answers.right, answers.predicated⟩

/-- Calls add their links behind those of the chain, one for each call. -/
theorem links_of_joinAll {calls : List JoinCall}
    (joined : chain.joinAll calls = .ok target) :
    ∃ added, target.links = chain.links ++ added ∧
      List.Forall₂ Join.Answers added calls := by
  induction calls generalizing chain with
  | nil =>
      cases joined
      exact ⟨[], (List.append_nil _).symm, .nil⟩
  | cons call rest ih =>
      rw [joinAll] at joined
      cases first : chain.joinBy call with
      | error error =>
          rw [first] at joined
          cases joined
      | ok join =>
          rw [first] at joined
          obtain ⟨left, answers⟩ := joinBy_answers first
          obtain ⟨added, links, each⟩ := ih joined
          refine ⟨join :: added, ?_, .cons answers each⟩
          rw [links, Chain.links, join.links_eq, left, List.append_assoc]
          rfl

end Chain

namespace Select

/-- Extend what the statement selects from by one call. -/
def joinBy (select : Select) : JoinCall → Except QueryError Select
  | .on right kind predicate => select.join right kind predicate
  | .related right kind lookup => select.joinUsing right kind lookup

/-- Extend what the statement selects from by calls, one after the other. -/
def joinAll (select : Select) : List JoinCall → Except QueryError Select
  | [] => .ok select
  | call :: rest => do
      let joined ← select.joinBy call
      joined.joinAll rest

variable {select : Select} {chain : Chain}

theorem joinBy_eq (target : select.chain? = some chain) (call : JoinCall) :
    select.joinBy call =
      (chain.joinBy call).map fun join => select.selectFrom (.join join) := by
  have base : select.joinBase = .ok chain := by rw [joinBase, target]
  cases call with
  | on right kind predicate =>
      rw [joinBy, join, base, Chain.joinBy]
      show Except.bind (chain.joinOn right kind predicate) _ = _
      cases chain.joinOn right kind predicate <;> rfl
  | related right kind lookup =>
      rw [joinBy, joinUsing, base, Chain.joinBy]
      show Except.bind (chain.joinUsing right kind lookup) _ = _
      cases chain.joinUsing right kind lookup <;> rfl

/-- A statement joins as the chain that it selects from. -/
theorem chain?_joinAll (calls : List JoinCall)
    (target : select.chain? = some chain) :
    (select.joinAll calls).map chain? = (chain.joinAll calls).map some := by
  induction calls generalizing select chain with
  | nil =>
      rw [joinAll, Chain.joinAll, Except.map, Except.map, target]
  | cons call rest ih =>
      rw [joinAll, Chain.joinAll, joinBy_eq target]
      cases chain.joinBy call with
      | error error => rfl
      | ok join => exact ih rfl

end Select

namespace Chain

/-- A join of a kind that needs no predicate is made without one, whatever the
lookup.  A join of another kind is made exactly if a source of the chain is
related to the new one, on the predicate of the latest that is, and otherwise
the error is that of the last source.  Each of a sequence of joins, of a chain
or of a statement that selects from it, adds one link, which has a predicate if
its kind needs one. -/
theorem joins_inferred (chain : Chain) (source : Source) (kind : JoinKind)
    (lookup : RelationLookup) :
    (kind.needsPredicate = false → ∀ other : RelationLookup,
      chain.joinUsing source kind other =
        .ok ⟨chain, kind, source, none⟩) ∧
    (kind.needsPredicate = true →
      ((∃ join, chain.joinUsing source kind lookup = .ok join) ↔
        ∃ candidate ∈ chain.sources, lookup.Relates candidate source) ∧
      (∀ join, chain.joinUsing source kind lookup = .ok join ↔
        ∃ predicate, chain.LatestRelation lookup source predicate ∧
          join = ⟨chain, kind, source, some predicate⟩) ∧
      ∀ error, chain.joinUsing source kind lookup = .error error ↔
        chain.Unrelated lookup source error) ∧
    (∀ calls target, chain.joinAll calls = .ok target →
      ∃ added, target.links = chain.links ++ added ∧
        List.Forall₂ Join.Answers added calls) ∧
    ∀ (select : Select) (calls : List JoinCall),
      select.chain? = some chain →
        (select.joinAll calls).map Select.chain? =
          (chain.joinAll calls).map some := by
  refine ⟨?_, ?_, ?_, ?_⟩
  · intro free other
    exact joinUsing_of_free chain source free other
  · intro needs
    exact ⟨exists_joinUsing_eq_ok_iff needs,
      fun _ => joinUsing_eq_ok_iff needs,
      fun _ => joinUsing_eq_error_iff needs⟩
  · intro calls target joined
    exact links_of_joinAll joined
  · intro select calls target
    exact Select.chain?_joinAll calls target

end Chain

/-- Departments with a key. -/
def Table.departments : Table :=
  ⟨⟨1⟩, none, "dept",
    [⟨"id", none, .auto, true, false, false, false, none, none⟩]⟩

/-- Employees with the department that they work in. -/
def Table.employees : Table :=
  ⟨⟨2⟩, none, "emp",
    [⟨"id", none, .auto, true, false, false, false, none, none⟩,
      ⟨"dept_id", none, .int, false, false, false, false,
        some ⟨departments.id, "id"⟩, none⟩]⟩

/-- Rooms, which belong to nobody. -/
def Table.rooms : Table :=
  ⟨⟨3⟩, none, "room",
    [⟨"id", none, .auto, true, false, false, false, none, none⟩]⟩

/-- An employee works in the department. -/
def Expr.worksIn : Expr :=
  .binary .eq (.field (.ofIndex .employees ⟨1, Nat.one_lt_two⟩))
    (.field (.ofIndex .departments ⟨0, Nat.one_pos⟩))

/-- All employees with all rooms. -/
def Chain.housed : Chain :=
  .join ⟨.source (.table .employees), .cross, .table .rooms, none⟩

namespace Chain

theorem housed_latestRelation :
    housed.LatestRelation .declared (.table .departments) .worksIn := by
  refine ⟨[], .table .employees, [.table .rooms], rfl, rfl, ?_⟩
  intro later member
  rw [List.mem_singleton.mp member]
  rintro ⟨predicate, found⟩
  cases found

/-- The departments are joined to the employees, past the rooms. -/
theorem joins_inferred_housed :
    JoinKind.inner.needsPredicate = true ∧
    housed.joinUsing (.table .departments) .inner .declared =
      .ok ⟨housed, .inner, .table .departments, some .worksIn⟩ ∧
    ∃ target added,
      housed.joinAll [.on (.table .departments) .inner none] = .ok target ∧
      target.links = housed.links ++ added ∧
      List.Forall₂ Join.Answers added
        [.on (.table .departments) .inner none] := by
  obtain ⟨_, needed, sequence, _⟩ := joins_inferred housed
    (.table .departments) .inner .declared
  obtain ⟨_, made, _⟩ := needed rfl
  obtain ⟨added, links, each⟩ :=
    sequence [.on (.table .departments) .inner none] _ rfl
  exact ⟨rfl, (made _).mpr ⟨.worksIn, housed_latestRelation, rfl⟩, _, added,
    rfl, links, each⟩

end Chain

end SqlWeave
