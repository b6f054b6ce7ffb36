import Mathlib.Data.List.Nodup
import Mathlib.Data.List.Perm.Subperm
import Std.Data.String.ToNat
import SqlWeave.Alias.Names

/-!
# Generated names

The search for a generated name tries as many numbers as there are taken names.
It skips only names that are taken, and there are not enough of them to spoil
one more number, so the name it ends with is free.
-/

namespace SqlWeave.AliasNames

/-- Different numbers make different names. -/
theorem generated_injective : Function.Injective generated := by
  intro first second equal
  rw [generated, generated, String.append_right_inj] at equal
  exact Nat.repr_injective equal

variable {taken : List String} {count number : Nat}

/-- Only taken names are skipped. -/
theorem mem_of_lt_firstFree {skipped : Nat} (least : number ≤ skipped)
    (before : skipped < firstFree taken count number) :
    generated skipped ∈ taken := by
  induction count generalizing number with
  | zero => exact absurd before (Nat.not_lt.mpr least)
  | succ count ih =>
      rw [firstFree] at before
      split at before
      · next held =>
          rcases Nat.eq_or_lt_of_le least with equal | later
          · rw [← equal]
            exact List.contains_iff_mem.mp held
          · exact ih later before
      · exact absurd before (Nat.not_lt.mpr least)

/-- The search stops early at a free name only. -/
theorem not_mem_of_firstFree_lt
    (early : firstFree taken count number < number + count) :
    generated (firstFree taken count number) ∉ taken := by
  induction count generalizing number with
  | zero => exact absurd early (Nat.lt_irrefl _)
  | succ count ih =>
      rw [firstFree] at early ⊢
      split
      · next held =>
          rw [if_pos held] at early
          apply ih
          omega
      · next free =>
          intro held
          exact free (List.contains_iff_mem.mpr held)

/-- Not all of more numbers than there are names have names among them. -/
theorem exists_generated_not_mem (taken : List String) (number : Nat) :
    ∃ free, number ≤ free ∧ free ≤ number + taken.length ∧
      generated free ∉ taken := by
  by_contra none
  push Not at none
  have subset : (List.range' number (taken.length + 1)).map generated ⊆ taken := by
    intro name member
    obtain ⟨tried, inside, rfl⟩ := List.mem_map.mp member
    rw [List.mem_range'_1] at inside
    exact none tried inside.1 (by omega)
  have distinct :
      ((List.range' number (taken.length + 1)).map generated).Nodup :=
    (List.nodup_range' _).map generated_injective
  have short := (distinct.subperm subset).length_le
  rw [List.length_map, List.length_range'] at short
  exact absurd short (Nat.not_succ_le_self _)

theorem freeName_not_mem_taken (names : AliasNames) :
    names.freeName ∉ names.taken := by
  intro held
  obtain ⟨free, least, bound, unused⟩ := exists_generated_not_mem names.taken 1
  have reached : firstFree names.taken names.taken.length 1 ≤ free := by
    by_contra later
    exact unused (mem_of_lt_firstFree least (Nat.not_le.mp later))
  rcases Nat.eq_or_lt_of_le reached with equal | early
  · rw [freeName, equal] at held
    exact unused held
  · exact not_mem_of_firstFree_lt (Nat.lt_of_lt_of_le early bound) held

theorem le_firstFree (taken : List String) (count number : Nat) :
    number ≤ firstFree taken count number := by
  induction count generalizing number with
  | zero => exact Nat.le_refl number
  | succ count ih =>
      rw [firstFree]
      split
      · exact Nat.le_of_succ_le (ih (number + 1))
      · exact Nat.le_refl number

/-- The name is the first of `t1`, `t2`, … that is not taken. -/
def IsLowestFree (taken : List String) (name : String) : Prop :=
  ∃ number, 1 ≤ number ∧ name = generated number ∧ name ∉ taken ∧
    ∀ smaller, 1 ≤ smaller → smaller < number → generated smaller ∈ taken

/-- There is one first free name, however the taken names are listed. -/
theorem IsLowestFree.unique {taken taken' : List String} {name name' : String}
    (same : ∀ other, other ∈ taken' ↔ other ∈ taken)
    (lowest : IsLowestFree taken name) (lowest' : IsLowestFree taken' name') :
    name' = name := by
  obtain ⟨first, least, rfl, free, below⟩ := lowest
  obtain ⟨second, least', rfl, free', below'⟩ := lowest'
  rcases Nat.lt_trichotomy first second with earlier | rfl | later
  · exact absurd ((same _).mp (below' first least earlier)) free
  · rfl
  · exact absurd ((same _).mpr (below second least' later)) free'

theorem freeName_isLowestFree (names : AliasNames) :
    IsLowestFree names.taken names.freeName :=
  ⟨firstFree names.taken names.taken.length 1, le_firstFree _ _ _, rfl,
    names.freeName_not_mem_taken,
    fun _ least before => mem_of_lt_firstFree least before⟩

end SqlWeave.AliasNames
