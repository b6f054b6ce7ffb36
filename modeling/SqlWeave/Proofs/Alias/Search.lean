import Mathlib.Algebra.Group.Nat.Defs
import SqlWeave.Proofs.Alias.Tables

/-!
# The search for a free name

An alias without a name gets the first of `t1`, `t2`, … that is neither held nor
reserved, and these are tried in turn.  The search itself has no bound, and the
counter that it goes by may be a machine word.  But different numbers have
different names, and there are more numbers than names; so a free one is met
after one round more than there are names at the latest, and a word of 64 bits
does not wrap until then (`AliasTables.free_name_searched`).
-/

namespace SqlWeave

namespace AliasTables

/-! ## Rounds -/

/-- What a round of the search comes to. -/
inductive Round (Counter : Type) where
  /-- The name is free and is given out. -/
  | found (name : String)
  /-- The name is taken, and the search goes on with this counter. -/
  | onward (counter : Counter)

section Rounds

variable {Counter : Type} [ToString Counter] [Add Counter] [OfNat Counter 1]

/-- Try the name with the number of the counter. -/
def tryName (tables : AliasTables) (counter : Counter) : Round Counter :=
  let name := "t" ++ toString counter
  if name ∉ tables.ids ∧ name ∉ tables.reserved then .found name
  else .onward (counter + 1)

/-- The state of the search after some rounds.  Once a name is found nothing
more is tried. -/
def search (tables : AliasTables) : Nat → Counter → Round Counter
  | 0, counter => .onward counter
  | rounds + 1, counter =>
      match tables.tryName counter with
      | .found name => .found name
      | .onward later => tables.search rounds later

/-- The search from one on takes this many rounds and finds the name with their
number.  Before its last round the counter shows how many rounds there were, and
one more. -/
structure EndsIn (tables : AliasTables) (shown : Counter → Nat)
    (number : Nat) : Prop where
  before : ∀ rounds < number, ∃ counter : Counter,
    tables.search rounds 1 = .onward counter ∧ shown counter = rounds + 1
  after : ∀ rounds, number ≤ rounds →
    tables.search rounds (1 : Counter) = .found (AliasNames.generated number)

/-- The counter is written as the number that it shows, and counts up as long as
the numbers are below the limit. -/
structure Counts (shown : Counter → Nat) (limit : Nat) : Prop where
  text : ∀ counter, toString counter = toString (shown counter)
  one : shown 1 = 1
  next : ∀ counter, shown counter + 1 < limit →
    shown (counter + 1) = shown counter + 1

variable {tables : AliasTables} {shown : Counter → Nat} {limit : Nat}
variable {counter : Counter} {number rounds : Nat}

theorem tryName_of_isFree (counts : Counts shown limit)
    (free : tables.IsFree (shown counter)) :
    tables.tryName counter =
      .found (AliasNames.generated (shown counter)) := by
  rw [tryName, counts.text]
  exact if_pos free

theorem tryName_of_not_isFree (counts : Counts shown limit)
    (taken : ¬ tables.IsFree (shown counter)) :
    tables.tryName counter = .onward (counter + 1) := by
  rw [tryName, counts.text]
  exact if_neg taken

/-- As long as all names are taken the counter moves on by one in each round. -/
theorem search_of_taken (counts : Counts shown limit)
    (small : shown counter + rounds < limit)
    (taken : ∀ tried, shown counter ≤ tried → tried < shown counter + rounds →
      ¬ tables.IsFree tried) :
    ∃ later, tables.search rounds counter = .onward later ∧
      shown later = shown counter + rounds := by
  induction rounds generalizing counter with
  | zero => exact ⟨counter, rfl, rfl⟩
  | succ rounds ih =>
      have first : ¬ tables.IsFree (shown counter) :=
        taken _ (Nat.le_refl _) (Nat.lt_add_of_pos_right rounds.succ_pos)
      have counted : shown (counter + 1) = shown counter + 1 :=
        counts.next counter (by omega)
      have others : ∀ tried, shown (counter + 1) ≤ tried →
          tried < shown (counter + 1) + rounds → ¬ tables.IsFree tried :=
        fun tried least before => taken tried (by omega) (by omega)
      obtain ⟨later, state, shows⟩ := ih (by omega) others
      refine ⟨later, ?_, by omega⟩
      rw [search, tryName_of_not_isFree counts first]
      exact state

/-- The first free name is found, and it remains the one that was found. -/
theorem search_of_isFree (counts : Counts shown limit)
    (least : shown counter ≤ number) (small : number < limit)
    (taken : ∀ tried, shown counter ≤ tried → tried < number →
      ¬ tables.IsFree tried)
    (free : tables.IsFree number) (enough : number < shown counter + rounds) :
    tables.search rounds counter = .found (AliasNames.generated number) := by
  induction rounds generalizing counter with
  | zero => exact absurd enough (Nat.not_lt.mpr least)
  | succ rounds ih =>
      rw [search]
      rcases Nat.eq_or_lt_of_le least with rfl | later
      · rw [tryName_of_isFree counts free]
      · rw [tryName_of_not_isFree counts (taken _ (Nat.le_refl _) later)]
        have counted : shown (counter + 1) = shown counter + 1 :=
          counts.next counter (by omega)
        apply ih
        · omega
        · exact fun tried above before => taken tried (by omega) before
        · omega

/-- The search ends with the first free name, if the counter gets that far. -/
theorem endsIn_of_isFree (counts : Counts shown limit)
    (positive : 1 ≤ number) (small : number < limit)
    (free : tables.IsFree number)
    (taken : ∀ smaller, 1 ≤ smaller → smaller < number →
      ¬ tables.IsFree smaller) : tables.EndsIn shown number := by
  constructor
  · intro rounds early
    have reached : shown (1 : Counter) + rounds = rounds + 1 := by
      rw [counts.one, Nat.add_comm]
    rw [← reached]
    apply search_of_taken counts
    · omega
    · rw [counts.one]
      exact fun tried above before => taken tried above (by omega)
  · intro rounds enough
    apply search_of_isFree counts
    · rw [counts.one]
      exact positive
    · exact small
    · rw [counts.one]
      exact taken
    · exact free
    · rw [counts.one]
      omega

end Rounds

/-! ## Counters -/

/-- Numbers count without a limit. -/
theorem counts_nat (limit : Nat) : Counts (id : Nat → Nat) limit :=
  ⟨fun _ => rfl, rfl, fun _ _ => rfl⟩

/-- Words of 64 bits count until they wrap. -/
theorem counts_word : Counts UInt64.toNat (2 ^ 64) := by
  refine ⟨fun _ => rfl, rfl, ?_⟩
  intro counter small
  rw [UInt64.toNat_add]
  exact Nat.mod_eq_of_lt small

/-! ## The number of rounds -/

/-- How many names are held, and how many are reserved, together. -/
def nameCount (tables : AliasTables) : Nat :=
  tables.ids.size + tables.reserved.size

theorem length_taken (tables : AliasTables) :
    tables.taken.length = tables.nameCount := by
  rw [taken, List.length_append, Std.HashMap.length_keys,
    Std.HashSet.length_toList]
  rfl

/-- The tables hold no more names than are listed. -/
theorem Follow.nameCount_le {tables : AliasTables} {names : AliasNames}
    (follow : tables.Follow names) :
    tables.nameCount ≤ names.size + names.reserved.length := by
  have held : tables.ids.keys ⊆ names.assignedNames := by
    intro name member
    exact (follow.mem_ids name).mp (Std.HashMap.mem_keys.mp member)
  have reserved : tables.reserved.toList ⊆ names.reserved := by
    intro name member
    exact (follow.reserved name).mp (Std.HashSet.mem_toList.mp member)
  have distinct : tables.reserved.toList.Nodup :=
    Std.HashSet.distinct_toList.imp beq_eq_false_iff_ne.mp
  have fewHeld := (Std.HashMap.nodup_keys.subperm held).length_le
  have fewReserved := (distinct.subperm reserved).length_le
  rw [Std.HashMap.length_keys, AliasNames.assignedNames, List.length_map]
    at fewHeld
  rw [Std.HashSet.length_toList] at fewReserved
  exact Nat.add_le_add fewHeld fewReserved

/-- The first free number is at most one more than there are names. -/
theorem exists_first_isFree (tables : AliasTables) :
    ∃ number, 1 ≤ number ∧ number ≤ tables.nameCount + 1 ∧
      tables.IsFree number ∧
      (∀ smaller, 1 ≤ smaller → smaller < number → ¬ tables.IsFree smaller) ∧
      tables.freeName = AliasNames.generated number := by
  obtain ⟨positive, free⟩ := Nat.find_spec tables.exists_isFree
  refine ⟨Nat.find tables.exists_isFree, positive, ?_, free, ?_, rfl⟩
  · obtain ⟨other, above, bound, unused⟩ :=
      AliasNames.exists_generated_not_mem tables.taken 1
    have least := Nat.find_min' tables.exists_isFree
      ⟨above, isFree_iff.mpr unused⟩
    rw [length_taken] at bound
    omega
  · intro smaller above before held
    exact Nat.find_min tables.exists_isFree before ⟨above, held⟩

/-- After any calls, the search for a free name ends after at most one round
more than there are names, and finds the first of `t1`, `t2`, … that is neither
held nor reserved.  With fewer than `2 ^ 64 - 1` names a word of 64 bits counts
its rounds without ever wrapping. -/
theorem free_name_searched (reserved : List String)
    (calls : List AliasNames.Call) :
    let names := (AliasNames.reserving reserved).afterAll calls
    let tables := (AliasTables.reserving reserved).afterAll calls
    ∃ number, 1 ≤ number ∧ number ≤ tables.nameCount + 1 ∧
      tables.IsFree number ∧
      (∀ smaller, 1 ≤ smaller → smaller < number → ¬ tables.IsFree smaller) ∧
      names.freeName = AliasNames.generated number ∧
      tables.freeName = AliasNames.generated number ∧
      tables.EndsIn (id : Nat → Nat) number ∧
      (tables.nameCount < 2 ^ 64 - 1 → tables.EndsIn UInt64.toNat number) := by
  intro names tables
  have follow : tables.Follow names :=
    (Follow.reserving reserved).afterAll calls
  obtain ⟨number, positive, bound, free, taken, named⟩ :=
    tables.exists_first_isFree
  refine ⟨number, positive, bound, free, taken, ?_, named, ?_, ?_⟩
  · rw [← follow.freeName]
    exact named
  · exact endsIn_of_isFree (counts_nat (number + 1)) positive
      (Nat.lt_succ_self number) free taken
  · intro few
    exact endsIn_of_isFree counts_word positive (by omega) free taken

/-- Names that look like generated ones, and one that is. -/
def decoys : List String := ["t0", "t01", "T1", "tt", "t2"]

/-- The first alias gets `t1`; the others keep their own names. -/
def decoyCalls : List AliasNames.Call :=
  [.register ⟨⟨1⟩, none⟩, .register ⟨⟨2⟩, some "t3"⟩,
    .register ⟨⟨3⟩, some "t04"⟩]

theorem free_name_searched_decoys :
    let tables := (AliasTables.reserving decoys).afterAll decoyCalls
    tables.nameCount < 2 ^ 64 - 1 ∧ tables.EndsIn UInt64.toNat 4 := by
  intro tables
  have few : tables.nameCount < 2 ^ 64 - 1 :=
    Nat.lt_of_le_of_lt
      ((Follow.reserving decoys).afterAll decoyCalls).nameCount_le (by decide)
  obtain ⟨number, _, _, _, _, named, _, _, word⟩ :=
    free_name_searched decoys decoyCalls
  have fourth : AliasNames.generated number = AliasNames.generated 4 :=
    named.symm.trans (by decide)
  rw [← AliasNames.generated_injective fourth]
  exact ⟨few, word few⟩

end AliasTables

end SqlWeave
