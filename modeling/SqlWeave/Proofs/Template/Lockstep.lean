import SqlWeave.Compile.Database

/-!
# Placeholders and values in step

A statement can be written to two buffers: pieces of text, in which a
placeholder is only a number, and the values that were bound so far.  Template
and inlined text then fill the same pieces, once with the placeholders of the
dialect and once with the values of those numbers.  Whatever is written, the
placeholders are numbered 1, 2, … in order of writing, one for each value, so
both renderings belong together (`Database.compile_eq_run`).
-/

namespace SqlWeave

/-- A piece of a statement's text. -/
inductive Piece where
  | fixed (chars : List Char)
  /-- The placeholder with this number. -/
  | placeholder (number : Nat)

namespace Piece

/-- The number of a placeholder. -/
def number? : Piece → Option Nat
  | placeholder number => some number
  | fixed _ => none

/-- The characters of a piece, given those of the placeholders. -/
def chars (fill : Nat → List Char) : Piece → List Char
  | fixed chars => chars
  | placeholder number => fill number

end Piece

/-- The characters of the value with this number, counted from one.  There are
none if there is no such value. -/
def Value.literalAt (values : List Value) (number : Nat) : List Char :=
  match values[number - 1]? with
  | some value => value.literal.toList
  | none => []

/-- The buffers that a statement is written to. -/
structure Buffers where
  pieces : List Piece
  values : List Value

namespace Buffers

/-- The buffers before anything is written. -/
def empty : Buffers := ⟨[], []⟩

/-- Write a fragment at the end.  A parameter binds its value, and its
placeholder is numbered by how many values are bound then. -/
def write (dialect : Dialect) (buffers : Buffers) : Fragment → Buffers
  | .keyword word =>
      ⟨buffers.pieces ++ [.fixed word.render.toList], buffers.values⟩
  | .name path =>
      ⟨buffers.pieces ++ [.fixed (dialect.pathChars path)], buffers.values⟩
  | .parameter value =>
      ⟨buffers.pieces ++ [.placeholder (buffers.values.length + 1)],
        buffers.values ++ [value]⟩

/-- Follow a script to its end or to its first failure. -/
def run (dialect : Dialect) (buffers : Buffers) :
    Script → Except QueryError Buffers
  | [] => .ok buffers
  | .fail error :: _ => .error error
  | .write fragment :: rest => (buffers.write dialect fragment).run dialect rest
  | .note _ :: rest => buffers.run dialect rest

/-- The numbers of the placeholders in order of writing. -/
def numbers (buffers : Buffers) : List Nat :=
  buffers.pieces.filterMap Piece.number?

/-- The text of the pieces, given the characters of the placeholders. -/
def chars (buffers : Buffers) (fill : Nat → List Char) : List Char :=
  buffers.pieces.flatMap (Piece.chars fill)

/-- The text with the placeholders of a dialect. -/
def template (dialect : Dialect) (buffers : Buffers) : String :=
  String.ofList (buffers.chars fun number =>
    (dialect.placeholder number).toList)

/-- The text with the values in place of their placeholders. -/
def inlined (buffers : Buffers) : String :=
  String.ofList (buffers.chars (Value.literalAt buffers.values))

/-- There is one placeholder for each value, numbered in order from one. -/
def InStep (buffers : Buffers) : Prop :=
  buffers.numbers = List.range' 1 buffers.values.length

variable {dialect : Dialect} {buffers written : Buffers}

/-! ## Writing keeps the buffers in step -/

theorem inStep_empty : empty.InStep := rfl

theorem InStep.write (inStep : buffers.InStep) (fragment : Fragment) :
    (buffers.write dialect fragment).InStep := by
  unfold InStep numbers at inStep ⊢
  cases fragment with
  | keyword word =>
      simpa [Buffers.write, List.filterMap_cons, Piece.number?] using inStep
  | name path =>
      simpa [Buffers.write, List.filterMap_cons, Piece.number?] using inStep
  | parameter value =>
      simp [Buffers.write, Piece.number?, inStep, List.range'_concat,
        Nat.add_comm]

/-- Buffers in step stay so, whatever is written after what they hold. -/
theorem InStep.run (inStep : buffers.InStep) {script : Script}
    (completed : buffers.run dialect script = .ok written) :
    written.InStep := by
  induction script generalizing buffers with
  | nil =>
      cases completed
      exact inStep
  | cons step rest ih =>
      cases step with
      | write fragment => exact ih (inStep.write fragment) completed
      | note event => exact ih inStep completed
      | fail error => cases completed

/-- Every placeholder of buffers in step stands for a value. -/
theorem InStep.exists_literalAt (inStep : buffers.InStep) {number : Nat}
    (member : number ∈ buffers.numbers) :
    ∃ value, buffers.values[number - 1]? = some value ∧
      Value.literalAt buffers.values number = value.literal.toList := by
  rw [inStep, List.mem_range'_1] at member
  have bound : number - 1 < buffers.values.length := by omega
  have held := List.getElem?_eq_getElem bound
  refine ⟨_, held, ?_⟩
  rw [Value.literalAt, held]

/-- In the numbered style the placeholders are `$1`, `$2` and so on. -/
theorem InStep.placeholders (inStep : buffers.InStep)
    (numbered : dialect.placeholders = .numbered) :
    buffers.numbers.map dialect.placeholder =
      (List.range' 1 buffers.values.length).map fun number =>
        "$" ++ toString number := by
  have spelled : dialect.placeholder = fun number => "$" ++ toString number := by
    funext number
    rw [Dialect.placeholder, numbered]
  rw [inStep, spelled]

/-! ## What the buffers hold after a script -/

/-- A run fails as the script does, and otherwise writes its fragments. -/
theorem run_eq (buffers : Buffers) (script : Script) :
    buffers.run dialect script =
      match script.failure? with
      | some error => .error error
      | none => .ok (script.fragments.foldl (write dialect) buffers) := by
  induction script generalizing buffers with
  | nil => rfl
  | cons step rest ih =>
      cases step with
      | write fragment => exact ih (buffers.write dialect fragment)
      | note event => exact ih buffers
      | fail error => rfl

theorem values_write (buffers : Buffers) (fragment : Fragment) :
    (buffers.write dialect fragment).values =
      buffers.values ++ fragment.value?.toList := by
  cases fragment <;> simp [write, Fragment.value?]

theorem values_foldl_write (buffers : Buffers) (fragments : List Fragment) :
    (fragments.foldl (write dialect) buffers).values =
      buffers.values ++ fragments.filterMap Fragment.value? := by
  induction fragments generalizing buffers with
  | nil => simp
  | cons fragment rest ih =>
      rw [List.foldl_cons, ih, values_write, List.append_assoc]
      cases fragment <;> simp [List.filterMap_cons, Fragment.value?]

/-- The text of what is written ends in the template of the fragments, numbered
on from the values that were bound before. -/
theorem chars_foldl_write (buffers : Buffers) (fragments : List Fragment) :
    (fragments.foldl (write dialect) buffers).chars
        (fun number => (dialect.placeholder number).toList) =
      buffers.chars (fun number => (dialect.placeholder number).toList) ++
        Fragment.templateChars dialect buffers.values.length fragments := by
  induction fragments generalizing buffers with
  | nil => simp [Fragment.templateChars]
  | cons fragment rest ih =>
      rw [List.foldl_cons, ih]
      cases fragment <;>
        simp [write, chars, Piece.chars, Fragment.templateChars,
          Fragment.chars, Fragment.value?]

/-- The number of a new placeholder stands for the value that was bound with
it, whatever is bound afterwards. -/
theorem literalAt_length (before after : List Value) (value : Value) :
    Value.literalAt (before ++ value :: after) (before.length + 1) =
      value.literal.toList := by
  simp [Value.literalAt]

theorem chars_foldl_write_literalAt (buffers : Buffers)
    (fragments : List Fragment) :
    (fragments.foldl (write dialect) buffers).chars (Value.literalAt
        (buffers.values ++ fragments.filterMap Fragment.value?)) =
      buffers.chars (Value.literalAt
        (buffers.values ++ fragments.filterMap Fragment.value?)) ++
        fragments.flatMap (Fragment.inlinedChars dialect) := by
  induction fragments generalizing buffers with
  | nil => simp
  | cons fragment rest ih =>
      have later := ih (buffers.write dialect fragment)
      cases fragment <;>
        simpa [write, chars, Piece.chars, List.filterMap_cons, Fragment.value?,
          Fragment.inlinedChars, literalAt_length] using later

end Buffers

/-- A script fails for the buffers as it does for a statement, or it leaves in
them what the statement made of it holds. -/
theorem Database.finish_cases (database : Database) (script : Script) :
    (∃ error, database.finish script = .error error ∧
      Buffers.empty.run database.dialect script = .error error) ∨
    ∃ statement buffers, database.finish script = .ok statement ∧
      Buffers.empty.run database.dialect script = .ok buffers ∧
      statement.template = buffers.template database.dialect ∧
      statement.values = buffers.values ∧
      statement.inlined = buffers.inlined := by
  rw [Database.finish, Buffers.run_eq]
  cases script.failure? with
  | some error => exact .inl ⟨error, rfl, rfl⟩
  | none =>
      refine .inr ⟨_, _, rfl, rfl, ?_, ?_, ?_⟩
      · rw [Buffers.template, Buffers.chars_foldl_write]
        rfl
      · rw [Buffers.values_foldl_write]
        rfl
      · rw [Buffers.inlined, Buffers.values_foldl_write,
          Buffers.chars_foldl_write_literalAt]
        rfl

/-- Template, values and inlined text of a node are read off the same buffers:
the node fails for both texts or for neither, its placeholders are those of its
values in order, and each of them is replaced by the value of its number. -/
theorem Database.compile_eq_run (database : Database) (node : Node) :
    let written := Buffers.empty.run database.dialect (database.script node)
    ((database.compile node).result.map fun statement =>
        (statement.template, statement.values)) =
      (written.map fun buffers =>
        (buffers.template database.dialect, buffers.values)) ∧
    (database.inlined node).result = written.map Buffers.inlined ∧
    ∀ buffers, written = .ok buffers →
      buffers.numbers = List.range' 1 buffers.values.length ∧
      (database.dialect.placeholders = .numbered →
        buffers.numbers.map database.dialect.placeholder =
          (List.range' 1 buffers.values.length).map fun number =>
            "$" ++ toString number) ∧
      ∀ number ∈ buffers.numbers,
        ∃ value, buffers.values[number - 1]? = some value ∧
          Value.literalAt buffers.values number = value.literal.toList := by
  intro written
  have inStep : ∀ buffers, written = .ok buffers → buffers.InStep :=
    fun buffers completed => Buffers.inStep_empty.run completed
  have outcome := database.finish_cases (database.script node)
  refine ⟨?_, ?_, fun buffers completed => ⟨inStep buffers completed,
    (inStep buffers completed).placeholders,
    fun number => (inStep buffers completed).exists_literalAt⟩⟩
  · rcases outcome with
      ⟨error, failed, ran⟩ |
        ⟨statement, buffers, made, ran, template, values, inlined⟩
    · simp [compile, written, failed, ran, Except.map]
    · simp [compile, written, made, ran, Except.map, template, values]
  · rcases outcome with
      ⟨error, failed, ran⟩ |
        ⟨statement, buffers, made, ran, template, values, inlined⟩
    · simp [Database.inlined, written, failed, ran, Except.map]
    · simp [Database.inlined, written, made, ran, Except.map, inlined]

end SqlWeave
