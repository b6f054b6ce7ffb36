import SqlWeave.Proofs.Building.Refinement
import SqlWeave.Proofs.Building.Slots

/-!
# Independent clauses

A call that refines a statement concerns one clause, and what a clause comes to
depends on the calls that concern it and on their order.  Calls that concern
different clauses may therefore change places (`clauses_independent`).
-/

namespace SqlWeave

/-- The clause that a call concerns. -/
def Refinement.clause : Refinement → Clause
  | restrict _ => .filter
  | orderBy _ => .ordering
  | limitTo _ => .limit
  | skip _ => .offset
  | distinctRows => .distinct
  | lockRows => .lock
  | selectFrom _ => .chain

/-- A call that refines a compound statement. -/
inductive CompoundRefinement where
  | orderBy (terms : List OrderTerm)
  | limitTo (limit : Int64)
  | skip (offset : Int64)

/-- The clause that a call concerns. -/
def CompoundRefinement.clause : CompoundRefinement → Clause
  | orderBy _ => .ordering
  | limitTo _ => .limit
  | skip _ => .offset

/-- Make a call. -/
def Compound.refine (compound : Compound) :
    CompoundRefinement → Logged Compound
  | .orderBy terms => compound.orderBy terms
  | .limitTo limit => compound.limitTo limit
  | .skip offset => compound.skip offset

variable {State Call : Type}

/-! ## Clauses of `SELECT` statements -/

namespace Select

def limitSlot : Clause.Slot Select.refine Refinement.clause Int64 where
  clause := .limit
  held := Select.limit
  given?
    | .limitTo limit => some limit
    | _ => none
  warnings limit := [.replacedLimit limit]
  given_clause call other := by cases call <;> simp_all [Refinement.clause]
  held_step select call := by cases call <;> rfl
  replacements_step select call := by
    cases call <;> simp [refine, orderBy, limitTo, skip]

def offsetSlot : Clause.Slot Select.refine Refinement.clause Int64 where
  clause := .offset
  held := Select.offset
  given?
    | .skip offset => some offset
    | _ => none
  warnings offset := [.replacedOffset offset]
  given_clause call other := by cases call <;> simp_all [Refinement.clause]
  held_step select call := by cases call <;> rfl
  replacements_step select call := by
    cases call <;> simp [refine, orderBy, limitTo, skip]

/-- A statement always has an ordering, if only without terms. -/
def orderingSlot :
    Clause.Slot Select.refine Refinement.clause (List OrderTerm) where
  clause := .ordering
  held select := some select.ordering
  given?
    | .orderBy terms => some terms
    | _ => none
  warnings := reordering
  given_clause call other := by cases call <;> simp_all [Refinement.clause]
  held_step select call := by cases call <;> rfl
  replacements_step select call := by
    cases call <;> simp [refine, orderBy, limitTo, skip]

def chainSlot : Clause.Slot Select.refine Refinement.clause Chain where
  clause := .chain
  held := Select.chain
  given?
    | .selectFrom chain => some chain
    | _ => none
  warnings _ := []
  given_clause call other := by cases call <;> simp_all [Refinement.clause]
  held_step select call := by cases call <;> rfl
  replacements_step select call := by
    cases call <;> simp [refine, orderBy, limitTo, skip]

/-- Rows once distinct stay so: a call can only give `true`. -/
def distinctSlot : Clause.Slot Select.refine Refinement.clause Bool where
  clause := .distinct
  held select := some select.distinct
  given?
    | .distinctRows => some true
    | _ => none
  warnings _ := []
  given_clause call other := by cases call <;> simp_all [Refinement.clause]
  held_step select call := by cases call <;> rfl
  replacements_step select call := by
    cases call <;> simp [refine, orderBy, limitTo, skip]

def lockSlot : Clause.Slot Select.refine Refinement.clause Bool where
  clause := .lock
  held select := some select.forUpdate
  given?
    | .lockRows => some true
    | _ => none
  warnings _ := []
  given_clause call other := by cases call <;> simp_all [Refinement.clause]
  held_step select call := by cases call <;> rfl
  replacements_step select call := by
    cases call <;> simp [refine, orderBy, limitTo, skip]

theorem items_after (select : Select) (calls : List Refinement) :
    (Logged.after Select.refine select calls).result.items = select.items := by
  induction calls generalizing select with
  | nil => rfl
  | cons call rest ih =>
      rw [Logged.after, ih]
      cases call <;> rfl

theorem result_after (select : Select) (calls : List Refinement) :
    (Logged.after Select.refine select calls).result =
      select.refined calls := by
  induction calls generalizing select with
  | nil => rfl
  | cons call rest ih =>
      rw [Logged.after, ih]
      rfl

theorem eq_of_clauses {first second : Select}
    (items : first.items = second.items) (chain : first.chain = second.chain)
    (filter : first.filter = second.filter)
    (ordering : first.ordering = second.ordering)
    (limit : first.limit = second.limit) (offset : first.offset = second.offset)
    (distinct : first.distinct = second.distinct)
    (forUpdate : first.forUpdate = second.forUpdate) : first = second := by
  cases first
  cases second
  simp_all

/-- Of the calls only those for each clause matter, in their order. -/
theorem after_congr (select : Select) {calls calls' : List Refinement}
    (same : ∀ clause, (calls.filter fun call => call.clause = clause) =
      calls'.filter fun call => call.clause = clause) :
    (Logged.after Select.refine select calls).result =
      (Logged.after Select.refine select calls').result := by
  have filter : Refinement.predicates calls = Refinement.predicates calls' := by
    have only (call : Refinement) (other : call.clause ≠ .filter) :
        call.predicate? = none := by
      cases call <;> simp_all [Refinement.clause, Refinement.predicate?]
    rw [Refinement.predicates, ← filterMap_eq_of_within only calls,
      same .filter, filterMap_eq_of_within only calls', Refinement.predicates]
  apply eq_of_clauses
  · rw [items_after, items_after]
  · exact chainSlot.held_congr select same
  · rw [result_after, result_after, filter_refined, filter_refined, filter]
  · exact Option.some.inj (orderingSlot.held_congr select same)
  · exact limitSlot.held_congr select same
  · exact offsetSlot.held_congr select same
  · exact Option.some.inj (distinctSlot.held_congr select same)
  · exact Option.some.inj (lockSlot.held_congr select same)

end Select

/-! ## Clauses of compound statements -/

namespace Compound

def limitSlot :
    Clause.Slot Compound.refine CompoundRefinement.clause Int64 where
  clause := .limit
  held := Compound.limit
  given?
    | .limitTo limit => some limit
    | _ => none
  warnings limit := [.replacedLimit limit]
  given_clause call other := by
    cases call <;> simp_all [CompoundRefinement.clause]
  held_step compound call := by cases call <;> rfl
  replacements_step compound call := by
    cases call <;> simp [refine, orderBy, limitTo, skip]

def offsetSlot :
    Clause.Slot Compound.refine CompoundRefinement.clause Int64 where
  clause := .offset
  held := Compound.offset
  given?
    | .skip offset => some offset
    | _ => none
  warnings offset := [.replacedOffset offset]
  given_clause call other := by
    cases call <;> simp_all [CompoundRefinement.clause]
  held_step compound call := by cases call <;> rfl
  replacements_step compound call := by
    cases call <;> simp [refine, orderBy, limitTo, skip]

def orderingSlot :
    Clause.Slot Compound.refine CompoundRefinement.clause (List OrderTerm) where
  clause := .ordering
  held compound := some compound.ordering
  given?
    | .orderBy terms => some terms
    | _ => none
  warnings := reordering
  given_clause call other := by
    cases call <;> simp_all [CompoundRefinement.clause]
  held_step compound call := by cases call <;> rfl
  replacements_step compound call := by
    cases call <;> simp [refine, orderBy, limitTo, skip]

/-- What is combined stays. -/
theorem operands_after (compound : Compound)
    (calls : List CompoundRefinement) :
    (Logged.after Compound.refine compound calls).result.left =
        compound.left ∧
      (Logged.after Compound.refine compound calls).result.operator =
        compound.operator ∧
      (Logged.after Compound.refine compound calls).result.right =
        compound.right := by
  induction calls generalizing compound with
  | nil => exact ⟨rfl, rfl, rfl⟩
  | cons call rest ih =>
      obtain ⟨left, operator, right⟩ := ih (compound.refine call).result
      rw [Logged.after, left, operator, right]
      cases call <;> exact ⟨rfl, rfl, rfl⟩

theorem eq_of_clauses {first second : Compound}
    (left : first.left = second.left)
    (operator : first.operator = second.operator)
    (right : first.right = second.right)
    (ordering : first.ordering = second.ordering)
    (limit : first.limit = second.limit)
    (offset : first.offset = second.offset) : first = second := by
  cases first
  cases second
  simp_all

/-- Of the calls only those for each clause matter, in their order. -/
theorem after_congr (compound : Compound)
    {calls calls' : List CompoundRefinement}
    (same : ∀ clause, (calls.filter fun call => call.clause = clause) =
      calls'.filter fun call => call.clause = clause) :
    (Logged.after Compound.refine compound calls).result =
      (Logged.after Compound.refine compound calls').result := by
  obtain ⟨left, operator, right⟩ := compound.operands_after calls
  obtain ⟨left', operator', right'⟩ := compound.operands_after calls'
  apply eq_of_clauses
  · rw [left, left']
  · rw [operator, operator']
  · rw [right, right']
  · exact Option.some.inj (orderingSlot.held_congr compound same)
  · exact limitSlot.held_congr compound same
  · exact offsetSlot.held_congr compound same

end Compound

/-! ## Both kinds of statements -/

theorem flatMap_reordering (orderings : List (List OrderTerm)) :
    orderings.flatMap reordering =
      (orderings.filter fun terms => !terms.isEmpty).map fun terms =>
        .replacedOrdering terms.length := by
  induction orderings with
  | nil => rfl
  | cons terms rest ih =>
      rw [List.flatMap_cons, ih, reordering, List.filter_cons]
      cases terms.isEmpty <;> rfl

/-- After calls, limit, offset and ordering are the last that were given, or
those from before.  Each number that was replaced is reported, and so is each
ordering that was replaced and had terms. -/
structure LastStands (step : State → Call → Logged State)
    (limit offset : State → Option Int64)
    (ordering : State → List OrderTerm)
    (limits offsets : List Call → List Int64)
    (orderings : List Call → List (List OrderTerm)) : Prop where
  limit_last : ∀ state calls,
    limit (Logged.after step state calls).result =
      (limits calls).getLast?.or (limit state)
  offset_last : ∀ state calls,
    offset (Logged.after step state calls).result =
      (offsets calls).getLast?.or (offset state)
  ordering_last : ∀ state calls,
    ordering (Logged.after step state calls).result =
      (orderings calls).getLast?.getD (ordering state)
  limit_reported : ∀ state calls,
    Event.replacements .limit (Logged.after step state calls).events =
      (overridden (limit state) (limits calls)).map .replacedLimit
  offset_reported : ∀ state calls,
    Event.replacements .offset (Logged.after step state calls).events =
      (overridden (offset state) (offsets calls)).map .replacedOffset
  ordering_reported : ∀ state calls,
    Event.replacements .ordering (Logged.after step state calls).events =
      ((overridden (some (ordering state)) (orderings calls)).filter
        fun terms => !terms.isEmpty).map fun terms =>
          .replacedOrdering terms.length

/-- Statements with a slot for each of the three clauses. -/
theorem LastStands.of_slots {step : State → Call → Logged State}
    {clauseOf : Call → Clause} {ordering : State → List OrderTerm}
    (limitSlot offsetSlot : Clause.Slot step clauseOf Int64)
    (orderingSlot : Clause.Slot step clauseOf (List OrderTerm))
    (limits : limitSlot.clause = .limit ∧
      limitSlot.warnings = fun limit => [.replacedLimit limit])
    (offsets : offsetSlot.clause = .offset ∧
      offsetSlot.warnings = fun offset => [.replacedOffset offset])
    (orderings : orderingSlot.clause = .ordering ∧
      orderingSlot.warnings = reordering)
    (ordered : orderingSlot.held = fun state => some (ordering state)) :
    LastStands step limitSlot.held offsetSlot.held ordering
      limitSlot.given offsetSlot.given orderingSlot.given where
  limit_last := limitSlot.held_after
  offset_last := offsetSlot.held_after
  ordering_last state calls := by
    have last := orderingSlot.held_after state calls
    rw [ordered] at last
    cases found : (orderingSlot.given calls).getLast? with
    | none => simpa [found] using last
    | some terms => simpa [found] using last
  limit_reported state calls := by
    have reported := limitSlot.replacements_after state calls
    rw [limits.1, limits.2] at reported
    rw [reported, List.map_eq_flatMap]
  offset_reported state calls := by
    have reported := offsetSlot.replacements_after state calls
    rw [offsets.1, offsets.2] at reported
    rw [reported, List.map_eq_flatMap]
  ordering_reported state calls := by
    have reported := orderingSlot.replacements_after state calls
    rw [orderings.1, orderings.2, ordered, flatMap_reordering] at reported
    exact reported

/-- Calls that concern different clauses may change places: what a statement
comes to depends on the calls for each clause only, and on these in their order.
Of limits, offsets and orderings the last stands, and each other one is reported
when it is replaced, an ordering if it has terms. -/
theorem clauses_independent :
    (∀ (select : Select) (calls calls' : List Refinement),
      (∀ clause, (calls.filter fun call => call.clause = clause) =
        calls'.filter fun call => call.clause = clause) →
      (Logged.after Select.refine select calls).result =
        (Logged.after Select.refine select calls').result) ∧
    LastStands Select.refine Select.limit Select.offset Select.ordering
      Select.limitSlot.given Select.offsetSlot.given
      Select.orderingSlot.given ∧
    (∀ (compound : Compound) (calls calls' : List CompoundRefinement),
      (∀ clause, (calls.filter fun call => call.clause = clause) =
        calls'.filter fun call => call.clause = clause) →
      (Logged.after Compound.refine compound calls).result =
        (Logged.after Compound.refine compound calls').result) ∧
    LastStands Compound.refine Compound.limit Compound.offset
      Compound.ordering Compound.limitSlot.given Compound.offsetSlot.given
      Compound.orderingSlot.given := by
  refine ⟨?_, ?_, ?_, ?_⟩
  · intro select calls calls' same
    exact select.after_congr same
  · exact .of_slots Select.limitSlot Select.offsetSlot Select.orderingSlot
      ⟨rfl, rfl⟩ ⟨rfl, rfl⟩ ⟨rfl, rfl⟩ rfl
  · intro compound calls calls' same
    exact compound.after_congr same
  · exact .of_slots Compound.limitSlot Compound.offsetSlot
      Compound.orderingSlot ⟨rfl, rfl⟩ ⟨rfl, rfl⟩ ⟨rfl, rfl⟩ rfl

/-- A statement is ordered by nothing and then by a constant, and limited to ten
rows twice and then to five. -/
def Refinement.paged : List Refinement :=
  [.limitTo 10, .orderBy [], .distinctRows, .limitTo 10,
    .orderBy [Expr.ordered (.ofBool true) .ascending],
    .orderBy [Expr.ordered (.ofBool true) .descending], .limitTo 5]

/-- The same calls clause by clause. -/
def Refinement.sorted : List Refinement :=
  [.distinctRows, .orderBy [],
    .orderBy [Expr.ordered (.ofBool true) .ascending],
    .orderBy [Expr.ordered (.ofBool true) .descending],
    .limitTo 10, .limitTo 10, .limitTo 5]

theorem clauses_independent_paged :
    (∀ select, (Logged.after Select.refine select Refinement.paged).result =
      (Logged.after Select.refine select Refinement.sorted).result) ∧
    Event.replacements .limit
        (Logged.after Select.refine (.ofItems []) Refinement.paged).events =
      [.replacedLimit 10, .replacedLimit 10] ∧
    Event.replacements .ordering
        (Logged.after Select.refine (.ofItems []) Refinement.paged).events =
      [.replacedOrdering 1] := by
  obtain ⟨independent, stands, _⟩ := clauses_independent
  refine ⟨?_, stands.limit_reported _ _, stands.ordering_reported _ _⟩
  intro select
  apply independent
  intro clause
  cases clause <;> rfl

end SqlWeave
