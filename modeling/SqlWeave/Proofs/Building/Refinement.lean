import SqlWeave.Query.Select

/-!
# Refining statements

A `SELECT` starts from its items and is refined by one call after the other,
each of which concerns one clause.  Whatever calls are made, the filter depends
on those that filter only, and on these in their order
(`Select.filter_refined`).
-/

namespace SqlWeave

/-- A call that refines a statement.  A join that succeeds is one that selects
from the longer chain. -/
inductive Refinement where
  | restrict (predicate : Expr)
  | orderBy (terms : List OrderTerm)
  | limitTo (limit : Int64)
  | skip (offset : Int64)
  | distinctRows
  | lockRows
  | selectFrom (chain : Chain)

namespace Refinement

/-- The predicate of a call that filters. -/
def predicate? : Refinement → Option Expr
  | restrict predicate => some predicate
  | _ => none

/-- The predicates of the calls that filter, in the order of the calls. -/
def predicates (calls : List Refinement) : List Expr :=
  calls.filterMap predicate?

end Refinement

namespace Select

/-- Make a call. -/
def refine (select : Select) : Refinement → Logged Select
  | .restrict predicate => select.restrict predicate
  | .orderBy terms => select.orderBy terms
  | .limitTo limit => select.limitTo limit
  | .skip offset => select.skip offset
  | .distinctRows => ⟨select.distinctRows, []⟩
  | .lockRows => ⟨select.lockRows, []⟩
  | .selectFrom chain => ⟨select.selectFrom chain, []⟩

/-- The statement after calls, one after the other. -/
def refined (select : Select) (calls : List Refinement) : Select :=
  calls.foldl (fun select call => (select.refine call).result) select

theorem filter_refine (select : Select) (call : Refinement) :
    (select.refine call).result.filter =
      call.predicate?.toList.foldl Expr.both select.filter := by
  cases call <;> rfl

theorem filter_refined (select : Select) (calls : List Refinement) :
    (select.refined calls).filter =
      (Refinement.predicates calls).foldl Expr.both select.filter := by
  induction calls generalizing select with
  | nil => rfl
  | cons call rest ih =>
      rw [refined, List.foldl_cons, ← refined, ih, filter_refine,
        Refinement.predicates, Refinement.predicates, List.filterMap_cons]
      cases call.predicate? <;> rfl

end Select

end SqlWeave
