import SqlWeave.Event
import SqlWeave.Path
import SqlWeave.Query.Error
import SqlWeave.Value.Basic

/-!
# Scripts

Compiling a part of a statement yields a script: the fragments of the statement
in the order of writing, with the events on the way.  A script may fail; then
everything before the failure is still written, and nothing after it.

Scripts of neighbouring parts are simply joined, so a script knows nothing of
what was written before it.  In particular a parameter is its value here, and
gets its number only when the statement is rendered.
-/

namespace SqlWeave

/-- A piece of a statement. -/
inductive Fragment where
  /-- Fixed syntax. -/
  | keyword (keyword : Keyword)
  /-- A dotted name, to be quoted. -/
  | name (path : Path)
  /-- A placeholder and the value bound to it. -/
  | parameter (value : Value)

namespace Fragment

/-- The value of a parameter. -/
def value? : Fragment → Option Value
  | parameter value => some value
  | _ => none

end Fragment

/-- A step of writing a statement. -/
inductive Step where
  | write (fragment : Fragment)
  | note (event : Event)
  | fail (error : QueryError)

/-- The steps of writing a part of a statement. -/
abbrev Script := List Step

namespace Script

/-- Write a keyword. -/
def keyword (keyword : Keyword) : Script := [.write (.keyword keyword)]

/-- Write a name. -/
def name (path : Path) : Script := [.write (.name path)]

/-- Write a placeholder for a value. -/
def parameter (value : Value) : Script := [.write (.parameter value)]

/-- Give up. -/
def fail (error : QueryError) : Script := [.fail error]

/-- Report events. -/
def notes (events : List Event) : Script := events.map .note

/-- A script in parentheses. -/
def parens (script : Script) : Script :=
  keyword .openParen ++ script ++ keyword .closeParen

/-- A script in parentheses, if `wrapped`. -/
def parensIf (wrapped : Bool) (script : Script) : Script :=
  if wrapped then script.parens else script

/-- Scripts with commas between them. -/
def commaSeparated : List Script → Script
  | [] => []
  | [script] => script
  | script :: rest => script ++ keyword .comma ++ commaSeparated rest

/-- The fragments that are written. -/
def fragments : Script → List Fragment
  | [] => []
  | .fail _ :: _ => []
  | .write fragment :: rest => fragment :: fragments rest
  | .note _ :: rest => fragments rest

/-- The events that are reported. -/
def events : Script → List Event
  | [] => []
  | .fail _ :: _ => []
  | .write _ :: rest => events rest
  | .note event :: rest => event :: events rest

/-- The failure that ends the script. -/
def failure? : Script → Option QueryError
  | [] => none
  | .fail error :: _ => some error
  | .write _ :: rest => failure? rest
  | .note _ :: rest => failure? rest

/-! ## Joined scripts -/

theorem failure?_append (first second : Script) :
    failure? (first ++ second) = (failure? first).or (failure? second) := by
  induction first with
  | nil => simp [failure?]
  | cons step rest ih => cases step <;> simp [failure?, ih]

/-- What a script writes is untouched by what is joined to it. -/
theorem fragments_append (first second : Script) :
    fragments (first ++ second) =
      fragments first ++
        if (failure? first).isNone then fragments second else [] := by
  induction first with
  | nil => simp [fragments, failure?]
  | cons step rest ih => cases step <;> simp [fragments, failure?, ih]

theorem events_append (first second : Script) :
    events (first ++ second) =
      events first ++
        if (failure? first).isNone then events second else [] := by
  induction first with
  | nil => simp [events, failure?]
  | cons step rest ih => cases step <;> simp [events, failure?, ih]

end Script

end SqlWeave
