import SqlWeave.Compile.Template
import SqlWeave.Proofs.Constants.Variation
import SqlWeave.Proofs.Script.Completion

/-!
# Scripts that differ in bound values

Two scripts are alike if they write the same fragments up to the values of
parameters, report the same events and fail alike.  The values are those of
given slots, in order.  Likeness is preserved by all ways to put scripts
together, and alike scripts have the same template.
-/

namespace SqlWeave

namespace Slot

/-- The values that two statements bind at several slots. -/
def allPairs (limitMax : Option Int64) (slots : List Slot) :
    List (Value × Value) :=
  slots.flatMap (pairs limitMax)

@[simp] theorem allPairs_append (limitMax : Option Int64)
    (slots others : List Slot) :
    allPairs limitMax (slots ++ others) =
      allPairs limitMax slots ++ allPairs limitMax others :=
  List.flatMap_append

end Slot

namespace Fragment

/-- The fragment without the value of a parameter. -/
def shape : Fragment → Fragment
  | parameter _ => parameter .null
  | fragment => fragment

/-- The values of the parameters in the order of writing. -/
def values (fragments : List Fragment) : List Value :=
  fragments.filterMap value?

theorem values_append (first second : List Fragment) :
    values (first ++ second) = values first ++ values second :=
  List.filterMap_append

@[simp] theorem chars_shape (dialect : Dialect) (index : Nat)
    (fragment : Fragment) :
    fragment.shape.chars dialect index = fragment.chars dialect index := by
  cases fragment <;> rfl

@[simp] theorem isSome_value?_shape (fragment : Fragment) :
    fragment.shape.value?.isSome = fragment.value?.isSome := by
  cases fragment <;> rfl

/-- Values have no part in a template. -/
theorem templateChars_shape (dialect : Dialect) (before : Nat)
    (fragments : List Fragment) :
    templateChars dialect before (fragments.map shape) =
      templateChars dialect before fragments := by
  induction fragments generalizing before with
  | nil => rfl
  | cons fragment rest ih =>
      rw [List.map_cons, templateChars, templateChars, chars_shape,
        isSome_value?_shape, ih]

end Fragment

namespace Script

variable {limitMax : Option Int64} {slots others : List Slot}
variable {first second third fourth : Script}

/-- The scripts differ in nothing but the values at the slots. -/
structure Alike (limitMax : Option Int64) (slots : List Slot)
    (first second : Script) : Prop where
  failure : failure? first = failure? second
  events : first.events = second.events
  shapes : first.fragments.map Fragment.shape =
    second.fragments.map Fragment.shape
  firstValues : Completes first → Fragment.values first.fragments =
    (Slot.allPairs limitMax slots).map Prod.fst
  secondValues : Completes second → Fragment.values second.fragments =
    (Slot.allPairs limitMax slots).map Prod.snd

namespace Alike

theorem completes_iff (alike : Alike limitMax slots first second) :
    Completes first ↔ Completes second := by
  rw [Completes, Completes, alike.failure]

/-- A script without parameters. -/
theorem fixed (script : Script) (free : Fragment.values script.fragments = []) :
    Alike limitMax [] script script where
  failure := rfl
  events := rfl
  shapes := rfl
  firstValues _ := free
  secondValues _ := free

theorem nil : Alike limitMax [] [] [] := fixed [] rfl

theorem keyword (word : Keyword) :
    Alike limitMax [] (Script.keyword word) (Script.keyword word) :=
  fixed _ rfl

theorem name (path : Path) :
    Alike limitMax [] (Script.name path) (Script.name path) :=
  fixed _ rfl

theorem notes (events : List Event) :
    Alike limitMax [] (Script.notes events) (Script.notes events) := by
  apply fixed
  rw [fragments_notes]
  rfl

/-- A script that fails at once has no slots to account for. -/
theorem fail (slots : List Slot) (error : QueryError) :
    Alike limitMax slots (Script.fail error) (Script.fail error) where
  failure := rfl
  events := rfl
  shapes := rfl
  firstValues completes := absurd completes (not_completes_fail error)
  secondValues completes := absurd completes (not_completes_fail error)

theorem parameter (value value' : Value) :
    Alike limitMax [.constant value value'] (Script.parameter value)
      (Script.parameter value') where
  failure := rfl
  events := rfl
  shapes := rfl
  firstValues _ := rfl
  secondValues _ := rfl

theorem append (front : Alike limitMax slots first second)
    (back : Alike limitMax others third fourth) :
    Alike limitMax (slots ++ others) (first ++ third) (second ++ fourth) := by
  constructor
  · rw [failure?_append, failure?_append, front.failure, back.failure]
  · rw [events_append, events_append, front.failure, front.events, back.events]
  · rw [fragments_append, fragments_append, List.map_append, List.map_append,
      front.failure, front.shapes]
    split
    · rw [back.shapes]
    · rfl
  · intro completes
    obtain ⟨left, right⟩ := (completes_append _ _).mp completes
    rw [left.fragments_append, Fragment.values_append, front.firstValues left,
      back.firstValues right, Slot.allPairs_append, List.map_append]
  · intro completes
    obtain ⟨left, right⟩ := (completes_append _ _).mp completes
    rw [left.fragments_append, Fragment.values_append, front.secondValues left,
      back.secondValues right, Slot.allPairs_append, List.map_append]

theorem keyword_append (word : Keyword)
    (inner : Alike limitMax slots first second) :
    Alike limitMax slots (Script.keyword word ++ first)
      (Script.keyword word ++ second) :=
  (keyword word).append inner

theorem append_fixed (inner : Alike limitMax slots first second)
    {script : Script} (rest : Alike limitMax [] script script) :
    Alike limitMax slots (first ++ script) (second ++ script) := by
  have whole := inner.append rest
  rw [List.append_nil] at whole
  exact whole

theorem append_keyword (inner : Alike limitMax slots first second)
    (word : Keyword) :
    Alike limitMax slots (first ++ Script.keyword word)
      (second ++ Script.keyword word) :=
  inner.append_fixed (keyword word)

theorem parens (inner : Alike limitMax slots first second) :
    Alike limitMax slots first.parens second.parens :=
  (inner.keyword_append .openParen).append_keyword .closeParen

theorem parensIf (inner : Alike limitMax slots first second)
    (wrapped : Bool) :
    Alike limitMax slots (first.parensIf wrapped) (second.parensIf wrapped) := by
  cases wrapped with
  | false => exact inner
  | true => exact inner.parens

end Alike

/-- Scripts that are alike one by one. -/
inductive AllAlike (limitMax : Option Int64) :
    List Slot → List Script → List Script → Prop where
  | nil : AllAlike limitMax [] [] []
  | cons {slots others : List Slot} {first second : Script}
      {rest rest' : List Script} :
      Alike limitMax slots first second → AllAlike limitMax others rest rest' →
      AllAlike limitMax (slots ++ others) (first :: rest) (second :: rest')

theorem AllAlike.commaSeparated {scripts scripts' : List Script}
    (each : AllAlike limitMax slots scripts scripts') :
    Alike limitMax slots (Script.commaSeparated scripts)
      (Script.commaSeparated scripts') := by
  induction each with
  | nil => exact .nil
  | cons head tail ih =>
      cases tail with
      | nil =>
          rw [List.append_nil]
          exact head
      | cons next others => exact (head.append_keyword .comma).append ih

theorem AllAlike.isEmpty_eq {scripts scripts' : List Script}
    (each : AllAlike limitMax slots scripts scripts') :
    scripts.isEmpty = scripts'.isEmpty := by
  cases each <;> rfl

end Script

end SqlWeave
