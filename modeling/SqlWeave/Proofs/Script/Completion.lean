import SqlWeave.Compile.Script

/-!
# Scripts that complete

A script completes if nothing in it fails.  Completion of a joined script is
completion of its parts, and the fragments of a script that completes are those
of its parts in order, so facts about fragments can be proved part by part.
-/

namespace SqlWeave.Script

/-- The script is written to its end. -/
def Completes (script : Script) : Prop := failure? script = none

instance (script : Script) : Decidable (Completes script) :=
  inferInstanceAs (Decidable (_ = _))

/-! ## Completion of each form of script -/

@[simp] theorem completes_nil : Completes [] := rfl

@[simp] theorem completes_keyword (word : Keyword) :
    Completes (keyword word) := rfl

@[simp] theorem completes_name (path : Path) : Completes (name path) := rfl

@[simp] theorem completes_parameter (value : Value) :
    Completes (parameter value) := rfl

@[simp] theorem not_completes_fail (error : QueryError) :
    ¬ Completes (fail error) := by
  simp [Completes, fail, failure?]

@[simp] theorem completes_notes (events : List Event) :
    Completes (notes events) := by
  induction events with
  | nil => rfl
  | cons event rest ih => exact ih

@[simp] theorem completes_append (first second : Script) :
    Completes (first ++ second) ↔ Completes first ∧ Completes second := by
  simp [Completes, failure?_append]

@[simp] theorem completes_parens (script : Script) :
    Completes (parens script) ↔ Completes script := by
  simp [parens]

@[simp] theorem completes_parensIf (wrapped : Bool) (script : Script) :
    Completes (parensIf wrapped script) ↔ Completes script := by
  cases wrapped <;> simp [parensIf]

theorem completes_commaSeparated (scripts : List Script) :
    Completes (commaSeparated scripts) ↔
      ∀ script ∈ scripts, Completes script := by
  induction scripts with
  | nil => simp [commaSeparated]
  | cons script rest ih =>
      cases rest with
      | nil => simp [commaSeparated]
      | cons next others =>
          simp only [commaSeparated, completes_append, completes_keyword,
            and_true, ih, List.forall_mem_cons]

/-! ## Fragments of scripts that complete -/

@[simp] theorem fragments_nil : fragments [] = [] := rfl

@[simp] theorem fragments_keyword (word : Keyword) :
    fragments (keyword word) = [.keyword word] := rfl

@[simp] theorem fragments_name (path : Path) :
    fragments (name path) = [.name path] := rfl

@[simp] theorem fragments_parameter (value : Value) :
    fragments (parameter value) = [.parameter value] := rfl

@[simp] theorem fragments_notes (events : List Event) :
    fragments (notes events) = [] := by
  induction events with
  | nil => rfl
  | cons event rest ih => exact ih

/-- After a script that completes, writing goes on. -/
theorem Completes.fragments_append {first : Script} (completes : Completes first)
    (second : Script) :
    fragments (first ++ second) = fragments first ++ fragments second := by
  have continues : (failure? first).isNone = true := by
    rw [show failure? first = none from completes]
    rfl
  rw [Script.fragments_append, if_pos continues]

/-- After a failure nothing is written any more. -/
theorem fragments_append_of_not_completes {first : Script}
    (failing : ¬ Completes first) (second : Script) :
    fragments (first ++ second) = fragments first := by
  have stops : ¬ (failure? first).isNone = true :=
    fun none => failing (Option.isNone_iff_eq_none.mp none)
  rw [Script.fragments_append, if_neg stops, List.append_nil]

theorem Completes.fragments_parens {script : Script}
    (completes : Completes script) :
    fragments (parens script) =
      .keyword .openParen :: (fragments script ++ [.keyword .closeParen]) := by
  rw [parens, List.append_assoc,
    (completes_keyword .openParen).fragments_append,
    completes.fragments_append]
  rfl

end SqlWeave.Script
