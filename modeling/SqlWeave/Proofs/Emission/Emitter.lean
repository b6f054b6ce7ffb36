import SqlWeave.Compile.Draft
import SqlWeave.Proofs.Script.Completion
import SqlWeave.Proofs.Template.Lockstep

/-!
# Writing in place

The script of a part depends on a context that is handed down to it.  A part can
also be written in place: to buffers that hold all that was written before it,
in a context that is changed when a statement begins and must be changed back
when it ends, also if something in it fails.

Such emissions are put together in a few ways, and each of them follows a script
if its parts do.  Following a script never looks at what the buffers hold, save
for the numbers of placeholders, so the same is true of all emissions.
-/

namespace SqlWeave

/-! ## Buffers joined -/

/-- The piece, if `count` more values are bound before it. -/
def Piece.shift (count : Nat) : Piece → Piece
  | fixed chars => fixed chars
  | placeholder number => placeholder (number + count)

namespace Buffers

/-- What the second buffers hold behind what the first hold. -/
def join (first second : Buffers) : Buffers :=
  ⟨first.pieces ++ second.pieces.map (Piece.shift first.values.length),
    first.values ++ second.values⟩

theorem join_empty (buffers : Buffers) : buffers.join empty = buffers := by
  simp [join, empty]

theorem join_write (dialect : Dialect) (first second : Buffers)
    (fragment : Fragment) :
    first.join (second.write dialect fragment) =
      (first.join second).write dialect fragment := by
  cases fragment with
  | keyword word => simp [join, write, Piece.shift]
  | name path => simp [join, write, Piece.shift]
  | parameter value =>
      have number : second.values.length + 1 + first.values.length =
          first.values.length + second.values.length + 1 := by omega
      simp [join, write, Piece.shift, number]

theorem join_foldl_write (dialect : Dialect) (first second : Buffers)
    (fragments : List Fragment) :
    first.join (fragments.foldl (write dialect) second) =
      fragments.foldl (write dialect) (first.join second) := by
  induction fragments generalizing second with
  | nil => rfl
  | cons fragment rest ih =>
      rw [List.foldl_cons, ih, join_write]
      rfl

end Buffers

/-! ## Emitters -/

/-- Buffers, and the context in which the next part is written to them. -/
structure Emitter where
  context : Context
  buffers : Buffers

namespace Emitter

/-- The emitter with empty buffers. -/
def cleared (emitter : Emitter) : Emitter := ⟨emitter.context, .empty⟩

/-- Open a scope with these names. -/
def enter (emitter : Emitter) (names : AliasNames) : Emitter :=
  ⟨emitter.context.enter names, emitter.buffers⟩

/-- Close the innermost scope, whatever it is. -/
def leave (emitter : Emitter) : Emitter :=
  ⟨{ emitter.context with scopes := emitter.context.scopes.tail },
    emitter.buffers⟩

/-- Write columns by their name alone, or with their qualifiers. -/
def setBareColumns (emitter : Emitter) (bare : Bool) : Emitter :=
  ⟨{ emitter.context with bareColumns := bare }, emitter.buffers⟩

/-- Follow a script.  Of one that fails, what stands before the failure is
written. -/
def follow (emitter : Emitter) (script : Script) :
    Except QueryError Unit × Emitter :=
  (match script.failure? with
    | some error => .error error
    | none => .ok (),
    ⟨emitter.context, script.fragments.foldl
      (Buffers.write emitter.context.dialect) emitter.buffers⟩)

end Emitter

/-- A way to go on with an emitter, which may fail on the way. -/
abbrev Emission : Type := Emitter → Except QueryError Unit × Emitter

namespace Emission

/-- Write a script that depends on the context only. -/
def put (script : Context → Script) : Emission := fun emitter =>
  emitter.follow (script emitter.context)

/-- Write nothing. -/
def skip : Emission := put fun _ => []

/-- Write a keyword. -/
def keyword (word : Keyword) : Emission := put fun _ => Script.keyword word

/-- Give up. -/
def fail (error : QueryError) : Emission := put fun _ => Script.fail error

/-- One emission after the other, unless the first one fails. -/
def andThen (first second : Emission) : Emission := fun emitter =>
  match first emitter with
  | (.ok (), after) => second after
  | (.error error, after) => (.error error, after)

instance : Append Emission := ⟨andThen⟩

/-- An emission in parentheses. -/
def parens (inner : Emission) : Emission :=
  keyword .openParen ++ inner ++ keyword .closeParen

/-- An emission in parentheses, if `wrapped`. -/
def parensIf (wrapped : Bool) (inner : Emission) : Emission :=
  if wrapped then inner.parens else inner

/-- Emissions with commas between them. -/
def commaSeparated : List Emission → Emission
  | [] => skip
  | [emission] => emission
  | emission :: rest => emission ++ keyword .comma ++ commaSeparated rest

/-- An ordering, if it has terms. -/
def ordering (terms : List Emission) : Emission :=
  if terms.isEmpty then skip
  else keyword .orderBy ++ commaSeparated terms

/-- An emission that is chosen when it is known in which context it begins. -/
def choose (choice : Context → Emission) : Emission := fun emitter =>
  choice emitter.context emitter

/-- Open a scope for the body and close it again, whether or not the body
fails. -/
def inScope (names : AliasNames) (body : Emission) : Emission := fun emitter =>
  let (result, after) := body (emitter.enter names)
  (result, after.leave)

/-- Write columns by their name alone in the body, and then again as before,
whether or not the body fails. -/
def inBareColumns (body : Emission) : Emission := fun emitter =>
  let (result, after) := body (emitter.setBareColumns true)
  (result, after.setBareColumns emitter.context.bareColumns)

/-! ## Emissions that follow a script -/

/-- To go on with an emitter is to follow the script for its context. -/
def Writes (emission : Emission) (script : Context → Script) : Prop :=
  ∀ emitter, emission emitter = emitter.follow (script emitter.context)

namespace Writes

variable {first second inner : Emission}
variable {script before after : Context → Script}

theorem put (script : Context → Script) : (Emission.put script).Writes script :=
  fun _ => rfl

theorem skip : Emission.skip.Writes fun _ => [] := .put _

theorem append (front : first.Writes before) (back : second.Writes after) :
    (first ++ second).Writes fun context => before context ++ after context := by
  intro emitter
  show andThen first second emitter = _
  rw [andThen, front emitter]
  cases failed : (before emitter.context).failure? with
  | some error =>
      have stops : ¬ (before emitter.context).Completes := by
        rw [Script.Completes, failed]
        exact Option.some_ne_none error
      simp only [Emitter.follow, failed, Script.failure?_append,
        Script.fragments_append_of_not_completes stops, Option.some_or]
  | none =>
      -- The second emission begins in the context in which the first one began.
      have goes : (before emitter.context).Completes := failed
      simp only [Emitter.follow, failed]
      rw [back]
      simp only [Emitter.follow, Script.failure?_append, failed, Option.none_or,
        goes.fragments_append, List.foldl_append]

theorem keyword (word : Keyword) :
    (Emission.keyword word).Writes fun _ => Script.keyword word :=
  .put _

theorem parens (writes : inner.Writes script) :
    inner.parens.Writes fun context => (script context).parens :=
  ((keyword _).append writes).append (keyword _)

theorem parensIf (writes : inner.Writes script) (wrapped : Bool) :
    (Emission.parensIf wrapped inner).Writes fun context =>
      (script context).parensIf wrapped := by
  cases wrapped with
  | false => exact writes
  | true => exact writes.parens

/-- The scope is closed by the time the emission ends, since the body closes
those that it opens. -/
theorem inScope (writes : inner.Writes script) (names : AliasNames) :
    (Emission.inScope names inner).Writes fun context =>
      script (context.enter names) := by
  intro emitter
  rw [Emission.inScope, writes]
  rfl

theorem inBareColumns (writes : inner.Writes script) :
    (Emission.inBareColumns inner).Writes fun context =>
      script context.withBareColumns := by
  intro emitter
  rw [Emission.inBareColumns, writes]
  rfl

end Writes

/-- Each emission writes the script at its place. -/
inductive AllWrite : List Emission → (Context → List Script) → Prop where
  | nil : AllWrite [] fun _ => []
  | cons {emission : Emission} {rest : List Emission}
      {script : Context → Script} {scripts : Context → List Script} :
      emission.Writes script → AllWrite rest scripts →
      AllWrite (emission :: rest) fun context =>
        script context :: scripts context

namespace AllWrite

variable {emissions : List Emission} {scripts : Context → List Script}

theorem commaSeparated (each : AllWrite emissions scripts) :
    (Emission.commaSeparated emissions).Writes fun context =>
      Script.commaSeparated (scripts context) := by
  induction each with
  | nil => exact .skip
  | cons head tail ih =>
      cases tail with
      | nil => exact head
      | cons next others => exact (head.append (.keyword _)).append ih

theorem ordering (each : AllWrite emissions scripts) :
    (Emission.ordering emissions).Writes fun context =>
      orderingScript (scripts context) := by
  cases each with
  | nil => exact .skip
  | cons head tail =>
      exact (Writes.keyword _).append (AllWrite.cons head tail).commaSeparated

end AllWrite

/-! ## What emissions leave alone -/

/-- An emission leaves the context, with its scopes and the way columns are
written, as it finds it and adds to what the buffers hold.  What it adds, and
whether it fails, does not depend on what they hold, save that placeholders are
numbered on. -/
structure Compositional (emission : Emission) : Prop where
  context : ∀ emitter, (emission emitter).2.context = emitter.context
  result : ∀ emitter, (emission emitter).1 = (emission emitter.cleared).1
  pieces : ∀ emitter, (emission emitter).2.buffers.pieces =
    emitter.buffers.pieces ++ (emission emitter.cleared).2.buffers.pieces.map
      (Piece.shift emitter.buffers.values.length)
  values : ∀ emitter, (emission emitter).2.buffers.values =
    emitter.buffers.values ++ (emission emitter.cleared).2.buffers.values

/-- Following a script has all of these effects and no others. -/
theorem Writes.compositional {emission : Emission} {script : Context → Script}
    (writes : emission.Writes script) : emission.Compositional := by
  have buffers : ∀ emitter, (emission emitter).2.buffers =
      emitter.buffers.join (emission emitter.cleared).2.buffers := by
    intro emitter
    rw [writes, writes]
    -- Both follow the script for one context; only the buffers are others.
    show _ = emitter.buffers.join (List.foldl _ Buffers.empty _)
    rw [Buffers.join_foldl_write, Buffers.join_empty]
    rfl
  constructor
  case context =>
    intro emitter
    rw [writes]
    rfl
  case result =>
    intro emitter
    rw [writes, writes]
    rfl
  case pieces => exact fun emitter => congrArg Buffers.pieces (buffers emitter)
  case values => exact fun emitter => congrArg Buffers.values (buffers emitter)

end Emission

end SqlWeave
