import SqlWeave.Query.Select

/-!
# Slots of statements

Most clauses of a statement are slots: they hold the last value that they are
given, and some report the value that they held before (`Clause.Slot`).  However
calls for different slots are mixed, a slot ends up with the last value that is
given to it, and every value that was replaced on the way is reported once.
-/

namespace SqlWeave

/-- A clause of a statement. -/
inductive Clause where
  | filter
  | ordering
  | limit
  | offset
  | distinct
  | lock
  | chain
  deriving DecidableEq, Repr

/-- The clause whose value an event reports as replaced. -/
def Event.replaced? : Event → Option Clause
  | replacedLimit _ => some .limit
  | replacedOffset _ => some .offset
  | replacedOrdering _ => some .ordering
  | _ => none

/-- The events that report a value of the clause as replaced. -/
def Event.replacements (clause : Clause) (events : List Event) : List Event :=
  events.filter fun event => event.replaced? = some clause

variable {State Call α : Type}

/-- Make calls one after the other.  Their events come in the same order. -/
def Logged.after (step : State → Call → Logged State) (state : State) :
    List Call → Logged State
  | [] => ⟨state, []⟩
  | call :: rest =>
      let next := step state call
      let last := after step next.result rest
      ⟨last.result, next.events ++ last.events⟩

/-- The values that are replaced if values are given one after the other: the
one that is held at first, if there is one, and all others but the last. -/
def overridden (held : Option α) (given : List α) : List α :=
  (held.toList ++ given).dropLast

theorem overridden_nil (held : Option α) : overridden held [] = [] := by
  cases held <;> rfl

theorem overridden_cons (held : Option α) (value : α) (rest : List α) :
    overridden held (value :: rest) =
      held.toList ++ overridden (some value) rest := by
  rw [overridden, List.dropLast_append_of_ne_nil (List.cons_ne_nil _ _)]
  rfl

/-! ## Slots -/

/-- A clause that holds the last value that a call gives it.  The value that was
held before is reported with warnings. -/
structure Clause.Slot (step : State → Call → Logged State)
    (clauseOf : Call → Clause) (α : Type) where
  clause : Clause
  held : State → Option α
  given? : Call → Option α
  warnings : α → List Event
  /-- Only calls that concern the clause give it a value. -/
  given_clause : ∀ call, clauseOf call ≠ clause → given? call = none
  held_step : ∀ state call,
    held (step state call).result = (given? call).or (held state)
  replacements_step : ∀ state call,
    Event.replacements clause (step state call).events =
      if (given? call).isSome then (held state).toList.flatMap warnings
      else []

/-- Of calls, those that concern a clause tell what it is given. -/
theorem filterMap_eq_of_within {clauseOf : Call → Clause}
    {given? : Call → Option α} {clause : Clause}
    (only : ∀ call, clauseOf call ≠ clause → given? call = none)
    (calls : List Call) :
    (calls.filter fun call => clauseOf call = clause).filterMap given? =
      calls.filterMap given? := by
  rw [List.filterMap_filter]
  congr 1
  funext call
  by_cases concerns : clauseOf call = clause
  · simp [concerns]
  · simp [concerns, only call concerns]

namespace Clause.Slot

variable {step : State → Call → Logged State} {clauseOf : Call → Clause}

/-- The values that calls give, in the order of the calls. -/
def given (slot : Slot step clauseOf α) (calls : List Call) : List α :=
  calls.filterMap slot.given?

/-- The last value that is given stays. -/
theorem held_after (slot : Slot step clauseOf α) (state : State)
    (calls : List Call) :
    slot.held (Logged.after step state calls).result =
      (slot.given calls).getLast?.or (slot.held state) := by
  induction calls generalizing state with
  | nil => rfl
  | cons call rest ih =>
      rw [Logged.after, ih, slot.held_step, given, given, List.filterMap_cons]
      cases slot.given? call with
      | none => rfl
      | some value =>
          rw [List.getLast?_cons]
          cases (rest.filterMap slot.given?).getLast? <;> rfl

/-- Each value that is replaced is reported, and no other. -/
theorem replacements_after (slot : Slot step clauseOf α) (state : State)
    (calls : List Call) :
    Event.replacements slot.clause (Logged.after step state calls).events =
      (overridden (slot.held state) (slot.given calls)).flatMap
        slot.warnings := by
  induction calls generalizing state with
  | nil =>
      rw [given, List.filterMap_nil, overridden_nil]
      rfl
  | cons call rest ih =>
      have first := slot.replacements_step state call
      have later := ih (step state call).result
      rw [Event.replacements] at first later ⊢
      rw [slot.held_step] at later
      rw [Logged.after, List.filter_append, first, later, given, given,
        List.filterMap_cons]
      cases slot.given? call with
      | none => rfl
      | some value =>
          rw [overridden_cons, List.flatMap_append]
          rfl

/-- Calls that concern other clauses may come in between. -/
theorem held_congr (slot : Slot step clauseOf α) (state : State)
    {calls calls' : List Call}
    (same : ∀ clause, (calls.filter fun call => clauseOf call = clause) =
      calls'.filter fun call => clauseOf call = clause) :
    slot.held (Logged.after step state calls).result =
      slot.held (Logged.after step state calls').result := by
  have given : slot.given calls = slot.given calls' := by
    rw [given, given, ← filterMap_eq_of_within slot.given_clause calls,
      same slot.clause, filterMap_eq_of_within slot.given_clause calls']
  rw [held_after, held_after, given]

end Clause.Slot

/-! ## Warnings of the slots -/

namespace Event

variable {clause : Clause}

@[simp] theorem replacements_nil : replacements clause [] = [] := rfl

/-- A value is reported as a value of its own clause. -/
theorem replacements_replacement {event : Int64 → Event} {own : Clause}
    (reports : ∀ value, (event value).replaced? = some own)
    (held : Option Int64) :
    replacements clause (replacement event held) =
      if own = clause then held.toList.flatMap fun value => [event value]
      else [] := by
  cases held with
  | none => simp [replacement]
  | some value =>
      by_cases same : own = clause <;>
        simp [replacement, replacements, reports, same]

@[simp] theorem replacements_limit (held : Option Int64) :
    replacements clause (replacement .replacedLimit held) =
      if .limit = clause then
        held.toList.flatMap fun value => [.replacedLimit value]
      else [] :=
  replacements_replacement (fun _ => rfl) held

@[simp] theorem replacements_offset (held : Option Int64) :
    replacements clause (replacement .replacedOffset held) =
      if .offset = clause then
        held.toList.flatMap fun value => [.replacedOffset value]
      else [] :=
  replacements_replacement (fun _ => rfl) held

@[simp] theorem replacements_ordering (held : List OrderTerm) :
    replacements clause (reordering held) =
      if .ordering = clause then reordering held else [] := by
  rw [reordering]
  cases held.isEmpty <;> by_cases same : .ordering = clause <;>
    simp [replacements, replaced?, same]

/-- A filter replaces nothing. -/
@[simp] theorem replacements_restrict (select : Select) (predicate : Expr) :
    replacements clause (select.restrict predicate).events = [] := by
  rw [Select.restrict]
  dsimp only
  split <;> rfl

end Event

end SqlWeave
