import SqlWeave.Proofs.Script.Completion

/-!
# Nesting of parentheses

Fragments are nested if every parenthesis among them has its partner.  Nested
fragments between parentheses can be told from what follows them, whatever they
hold: nothing at the front of the whole is nested by itself
(`Nested.indivisible_enclosed`).
-/

namespace SqlWeave

namespace Keyword

/-- The keyword is neither an opening nor a closing parenthesis. -/
def IsPlain (word : Keyword) : Prop :=
  word ≠ .openParen ∧ word ≠ .closeParen

instance (word : Keyword) : Decidable word.IsPlain :=
  inferInstanceAs (Decidable (_ ∧ _))

end Keyword

namespace Fragment

/-- Whether the fragment is an opening parenthesis. -/
def opens : Fragment → Bool
  | keyword word => word == .openParen
  | _ => false

/-- Whether the fragment is a closing parenthesis. -/
def closes : Fragment → Bool
  | keyword word => word == .closeParen
  | _ => false

/-- The number of parentheses that are open after the fragments, if `depth`
are open before them.  There is none if one is closed that was not opened. -/
def openAfter : Nat → List Fragment → Option Nat
  | depth, [] => some depth
  | depth, fragment :: rest =>
      if fragment.opens then openAfter (depth + 1) rest
      else if fragment.closes then
        match depth with
        | 0 => none
        | depth + 1 => openAfter depth rest
      else openAfter depth rest

/-- Every parenthesis has its partner. -/
def Nested (fragments : List Fragment) : Prop :=
  openAfter 0 fragments = some 0

instance (fragments : List Fragment) : Decidable (Nested fragments) :=
  inferInstanceAs (Decidable (_ = _))

/-- Fragments between parentheses. -/
def enclosed (fragments : List Fragment) : List Fragment :=
  .keyword .openParen :: (fragments ++ [.keyword .closeParen])

theorem enclosed_injective {first second : List Fragment}
    (equal : enclosed first = enclosed second) : first = second := by
  rw [enclosed, enclosed, List.cons.injEq] at equal
  exact List.append_cancel_right equal.2

/-- Nothing can be split off the front and be nested by itself. -/
def Indivisible (fragments : List Fragment) : Prop :=
  ∀ first second, fragments = first ++ second → Nested first →
    first = [] ∨ second = []

theorem indivisible_single (fragment : Fragment) : Indivisible [fragment] := by
  intro first second split _
  cases first with
  | nil => exact .inl rfl
  | cons head tail =>
      rw [List.cons_append, List.cons.injEq] at split
      exact .inr (List.append_eq_nil_iff.mp split.2.symm).2

theorem openAfter_append (depth : Nat) (first second : List Fragment) :
    openAfter depth (first ++ second) =
      (openAfter depth first).bind fun opened => openAfter opened second := by
  induction first generalizing depth with
  | nil => rfl
  | cons fragment rest ih =>
      simp only [List.cons_append, openAfter]
      split
      · exact ih (depth + 1)
      · split
        · cases depth with
          | zero => rfl
          | succ depth => exact ih depth
        · exact ih depth

/-- Parentheses that were open before stay open underneath. -/
theorem openAfter_add {depth opened : Nat} {fragments : List Fragment}
    (after : openAfter depth fragments = some opened) (more : Nat) :
    openAfter (depth + more) fragments = some (opened + more) := by
  induction fragments generalizing depth with
  | nil =>
      cases after
      rfl
  | cons fragment rest ih =>
      simp only [openAfter] at after ⊢
      split
      · next opens =>
          rw [if_pos opens] at after
          have shifted := ih after
          rwa [Nat.add_right_comm] at shifted
      · next opens =>
          rw [if_neg opens] at after
          split
          · next closes =>
              rw [if_pos closes] at after
              cases depth with
              | zero => cases after
              | succ depth =>
                  rw [Nat.add_right_comm]
                  exact ih after
          · next closes =>
              rw [if_neg closes] at after
              exact ih after

namespace Nested

@[simp] theorem nil : Nested [] := rfl

theorem openAfter_eq {fragments : List Fragment} (nested : Nested fragments)
    (depth : Nat) : openAfter depth fragments = some depth := by
  have shifted := openAfter_add nested depth
  rwa [Nat.zero_add] at shifted

theorem append {first second : List Fragment} (left : Nested first)
    (right : Nested second) : Nested (first ++ second) := by
  rw [Nested, openAfter_append, left.openAfter_eq 0]
  exact right

/-- What follows nested fragments is nested if the whole is. -/
theorem of_append {first second : List Fragment}
    (whole : Nested (first ++ second)) (left : Nested first) :
    Nested second := by
  rw [Nested, openAfter_append, left.openAfter_eq 0] at whole
  exact whole

/-- A fragment that is no parenthesis can be put in front. -/
theorem cons_iff {fragment : Fragment} (opens : fragment.opens = false)
    (closes : fragment.closes = false) (rest : List Fragment) :
    Nested (fragment :: rest) ↔ Nested rest := by
  simp [Nested, openAfter, opens, closes]

theorem enclosed {fragments : List Fragment} (nested : Nested fragments) :
    Nested (Fragment.enclosed fragments) := by
  have inner := nested.openAfter_eq 1
  show openAfter 1 (fragments ++ [.keyword .closeParen]) = some 0
  rw [openAfter_append, inner]
  rfl

/-- The first of two parentheses around nested fragments is closed by the
second one only. -/
theorem indivisible_enclosed {fragments : List Fragment}
    (nested : Nested fragments) : Indivisible (Fragment.enclosed fragments) := by
  intro first second split left
  cases first with
  | nil => exact .inl rfl
  | cons head tail =>
      refine .inr ?_
      rw [Fragment.enclosed, List.cons_append, List.cons.injEq] at split
      obtain ⟨rfl, tails⟩ := split
      rcases List.append_eq_append_iff.mp tails with
        ⟨extra, tailEq, closeEq⟩ | ⟨extra, fragmentsEq, secondEq⟩
      · -- The front part holds all fragments, so the last parenthesis too.
        cases extra with
        | nil =>
            have opened : openAfter 1 tail = some 0 := left
            rw [tailEq, List.append_nil, nested.openAfter_eq 1] at opened
            cases opened
        | cons _ others =>
            rw [List.cons_append, List.cons.injEq] at closeEq
            exact (List.append_eq_nil_iff.mp closeEq.2.symm).2
      · -- The front part ends inside, where the first parenthesis is open.
        exfalso
        subst fragmentsEq
        cases inside : openAfter 0 tail with
        | none =>
            rw [Nested, openAfter_append, inside] at nested
            cases nested
        | some opened =>
            have shifted := openAfter_add inside 1
            have closed : openAfter 1 tail = some 0 := left
            rw [Nat.zero_add, closed] at shifted
            cases shifted

end Nested

end Fragment

end SqlWeave
