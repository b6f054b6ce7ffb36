import SqlWeave.Compile.Database
import SqlWeave.Proofs.Script.Completion

/-!
# Compiled statements

A node compiles if its script completes, and what is compiled are the fragments
of the script.
-/

namespace SqlWeave

/-- The statement as a node. -/
def Operand.node : Operand → Node
  | select query => .select query
  | compound query => .compound query

namespace Database

theorem finish_eq_ok_iff (database : Database) (script : Script)
    (statement : Statement) :
    database.finish script = .ok statement ↔
      script.Completes ∧ statement = ⟨database.dialect, script.fragments⟩ := by
  rw [finish, Script.Completes]
  cases script.failure? with
  | some error => simp
  | none => simp [eq_comm]

theorem compile_eq_ok_iff (database : Database) (node : Node)
    (statement : Statement) :
    (database.compile node).result = .ok statement ↔
      (node.script database.context).Completes ∧
        statement =
          ⟨database.dialect, (node.script database.context).fragments⟩ :=
  database.finish_eq_ok_iff _ statement

end Database

end SqlWeave
