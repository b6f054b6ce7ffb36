import SqlWeave.Proofs.Script.Formation

/-!
# Lists of joined scripts

Many relations give a script a list: the operators that it is written with, or
the columns in it.  If joined scripts have their lists one behind the other and
fixed syntax has an empty one, then the list of a script that is put together
from many holds the lists of all of them in order.
-/

namespace SqlWeave

/-- All keywords of clauses and both parentheses are among `words`. -/
def Keyword.Fixed (words : Keyword → Prop) : Prop :=
  ∀ word ∈ Keyword.openParen :: .closeParen :: clauses, words word

namespace Script

variable {α : Type}

/-- Joined scripts have their lists one behind the other. -/
structure Additive (P : Script → List α → Prop) : Prop where
  nil : P [] []
  append {first second : Script} {parts others : List α} :
    P first parts → P second others → P (first ++ second) (parts ++ others)

/-- The scripts have the list together, each one its share. -/
inductive Share (P : Script → List α → Prop) :
    List Script → List α → Prop where
  | nil : Share P [] []
  | cons {script : Script} {rest : List Script} {parts others : List α} :
      P script parts → Share P rest others →
      Share P (script :: rest) (parts ++ others)

variable {P : Script → List α → Prop} {first second : Script}
variable {scripts : List Script} {parts others : List α}

theorem Share.of_forall_nil (each : ∀ script ∈ scripts, P script []) :
    Share P scripts [] := by
  induction scripts with
  | nil => exact .nil
  | cons script rest ih =>
      obtain ⟨head, tail⟩ := List.forall_mem_cons.mp each
      exact Share.cons head (ih tail)

namespace Additive

variable (additive : Additive P)

include additive

theorem append_of_nil (front : P first parts) (back : P second []) :
    P (first ++ second) parts := by
  have whole := additive.append front back
  rw [List.append_nil] at whole
  exact whole

theorem of_nil_append (front : P first []) (back : P second others) :
    P (first ++ second) others :=
  additive.append front back

variable (fixed : Keyword.Fixed fun word => P (Script.keyword word) [])

include fixed

theorem parens (inner : P first parts) : P first.parens parts :=
  additive.append_of_nil
    (additive.of_nil_append (fixed _ List.mem_cons_self) inner)
    (fixed _ (List.mem_cons_of_mem _ List.mem_cons_self))

theorem parensIf (inner : P first parts) (wrapped : Bool) :
    P (first.parensIf wrapped) parts := by
  cases wrapped with
  | false => exact inner
  | true => exact additive.parens fixed inner

theorem commaSeparated (each : Share P scripts parts) :
    P (Script.commaSeparated scripts) parts := by
  have comma : P (Script.keyword .comma) [] := fixed _ (by decide)
  induction each with
  | nil => exact additive.nil
  | cons head tail ih =>
      cases tail with
      | nil =>
          rw [List.append_nil]
          exact head
      | cons next others =>
          exact additive.append (additive.append_of_nil head comma) ih

theorem ordering (each : Share P scripts parts) :
    P (orderingScript scripts) parts := by
  have leading : P (Script.keyword .orderBy) [] := fixed _ (by decide)
  cases each with
  | nil => exact additive.nil
  | cons head tail =>
      exact additive.of_nil_append leading
        (additive.commaSeparated fixed (Share.cons head tail))

end Additive

end Script

end SqlWeave
