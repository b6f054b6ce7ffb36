import SqlWeave.Alias.Ref

/-!
# Events

What the library reports about its work.  Operations return their events
beside their result; whoever calls them decides which to show.
-/

namespace SqlWeave

/-- How severe an event is. -/
inductive Severity where
  | trace
  | debug
  | warn
  deriving DecidableEq, Repr

/-- Severities in ascending order. -/
def Severity.rank : Severity → Nat
  | trace => 0
  | debug => 1
  | warn => 2

/-- Something worth reporting. -/
inductive Event where
  /-- A limit replaced an earlier one. -/
  | replacedLimit (previous : Int64)
  /-- An offset replaced an earlier one. -/
  | replacedOffset (previous : Int64)
  /-- An ordering replaced an earlier one. -/
  | replacedOrdering (terms : Nat)
  /-- A filter came out as constantly false. -/
  | filterAlwaysFalse
  /-- A statement is about to be compiled. -/
  | compiling (dialect : String)
  /-- A statement was compiled. -/
  | compiled (parameters : Nat) (template : String)
  /-- A database was set up from settings. -/
  | configured (database dialect : String)
  /-- An alias got a name. -/
  | registered (name : String) (id : AliasId)
  deriving DecidableEq, Repr

namespace Event

/-- How severe the event is. -/
def severity : Event → Severity
  | replacedLimit _ | replacedOffset _ | replacedOrdering _
  | filterAlwaysFalse => .warn
  | compiling _ | compiled _ _ | configured _ _ => .debug
  | registered _ _ => .trace

/-- The line that reports the event. -/
def text : Event → String
  | replacedLimit previous =>
      "WARN Overriding previous limit of " ++ toString previous.toInt
  | replacedOffset previous =>
      "WARN Overriding previous offset of " ++ toString previous.toInt
  | replacedOrdering terms =>
      "WARN Overriding previous ordering of " ++ toString terms ++ " term(s)"
  | filterAlwaysFalse =>
      "WARN WHERE clause folded to constant false, the query matches no rows"
  | compiling dialect => "SPAN compile dialect=" ++ dialect
  | compiled parameters template =>
      "DEBUG compiled statement params=" ++ toString parameters ++ " sql=" ++
        template
  | configured database dialect =>
      "DEBUG configured database alias=" ++ database ++ " dialect=" ++ dialect
  | registered name id =>
      "TRACE registered alias alias=" ++ name ++ " id=" ++ id.display

/-- The lines of the events that are at least as severe as `least`. -/
def report (least : Severity) (events : List Event) : List String :=
  (events.filter fun event =>
    decide (least.rank ≤ event.severity.rank)).map text

end Event

/-- A result together with the events on the way to it. -/
structure Logged (α : Type) where
  result : α
  events : List Event

end SqlWeave
