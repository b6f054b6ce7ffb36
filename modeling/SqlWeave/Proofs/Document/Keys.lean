import SqlWeave.Document.Merge

/-!
# Keys of documents

Entries that are collected from pairs stand in the order of their keys, each key
once, and so do the entries of all objects in a document that is built from such
entries (`Document.Ordered`).  A document that is laid over another one then
acts under each key on its own: where it has none, the lower document is kept,
and its entry under a key is laid over what the lower document holds there.
-/

namespace SqlWeave

namespace Entries

variable {α : Type}

/-- The keys are in strict order. -/
def Sorted (entries : Entries α) : Prop :=
  entries.Pairwise fun left right => left.1 < right.1

theorem mem_of_get? {key : String} {value : α} {entries : Entries α}
    (found : get? key entries = some value) : (key, value) ∈ entries := by
  induction entries with
  | nil => cases found
  | cons pair rest ih =>
      obtain ⟨held, other⟩ := pair
      by_cases same : held = key
      · rw [get?, if_pos same, Option.some_inj] at found
        rw [same, found]
        exact List.mem_cons_self
      · rw [get?, if_neg same] at found
        exact List.mem_cons_of_mem _ (ih found)

theorem get?_eq_none_of_forall_ne {key : String} {entries : Entries α}
    (absent : ∀ entry ∈ entries, entry.1 ≠ key) : get? key entries = none := by
  cases found : get? key entries with
  | none => rfl
  | some value => exact absurd rfl (absent _ (mem_of_get? found))

/-- The key in front is in no other entry. -/
theorem Sorted.get?_tail {pair : String × α} {rest : Entries α}
    (sorted : Sorted (pair :: rest)) : get? pair.1 rest = none :=
  get?_eq_none_of_forall_ne fun entry member equal =>
    String.lt_irrefl pair.1
      (equal ▸ (List.pairwise_cons.mp sorted).1 entry member)

theorem Sorted.get?_eq_some_iff {entries : Entries α} (sorted : entries.Sorted)
    {key : String} {value : α} :
    get? key entries = some value ↔ (key, value) ∈ entries := by
  refine ⟨mem_of_get?, ?_⟩
  intro member
  induction entries with
  | nil => cases member
  | cons pair rest ih =>
      obtain ⟨held, old⟩ := pair
      rw [get?]
      rcases List.mem_cons.mp member with first | later
      · cases first
        exact if_pos rfl
      · obtain ⟨before, others⟩ := List.pairwise_cons.mp sorted
        rw [if_neg (Std.ne_of_lt (before _ later)), ih others later]

theorem Sorted.nodup {entries : Entries α} (sorted : entries.Sorted) :
    entries.Nodup := by
  refine List.Pairwise.imp ?_ sorted
  rintro first _ before rfl
  exact String.lt_irrefl _ before

/-- Entries in order are told by what is under each key. -/
theorem Sorted.ext {left right : Entries α} (sorted : left.Sorted)
    (sorted' : right.Sorted) (same : ∀ key, get? key left = get? key right) :
    left = right := by
  have members : ∀ entry, entry ∈ left ↔ entry ∈ right := by
    rintro ⟨key, value⟩
    rw [← sorted.get?_eq_some_iff, ← sorted'.get?_eq_some_iff, same]
  refine List.Perm.eq_of_pairwise ?_ sorted sorted'
    ((List.perm_ext_iff_of_nodup sorted.nodup sorted'.nodup).mpr members)
  intro first second _ _ before after
  exact absurd (String.lt_trans before after) (String.lt_irrefl _)

/-- Nothing but the new entry is added. -/
theorem mem_put {key : String} {value : α} {entries : Entries α}
    {entry : String × α} (member : entry ∈ put key value entries) :
    entry = (key, value) ∨ entry ∈ entries := by
  induction entries with
  | nil => exact .inl (List.mem_singleton.mp member)
  | cons pair rest ih =>
      obtain ⟨held, old⟩ := pair
      rw [put] at member
      split at member
      · rcases List.mem_cons.mp member with new | later
        · exact .inl new
        · exact .inr (List.mem_cons_of_mem _ later)
      · split at member
        · exact List.mem_cons.mp member
        · rcases List.mem_cons.mp member with first | later
          · exact .inr (first ▸ List.mem_cons_self)
          · exact (ih later).imp_right (List.mem_cons_of_mem _)

theorem Sorted.put {entries : Entries α} (sorted : entries.Sorted)
    (key : String) (value : α) : (put key value entries).Sorted := by
  induction entries with
  | nil => exact List.pairwise_singleton _ _
  | cons pair rest ih =>
      obtain ⟨held, old⟩ := pair
      obtain ⟨first, others⟩ := List.pairwise_cons.mp sorted
      rw [Entries.put]
      split
      · next same =>
        subst same
        exact List.pairwise_cons.mpr ⟨first, others⟩
      · next differs =>
        split
        · next before =>
          refine List.pairwise_cons.mpr ⟨?_, sorted⟩
          intro entry member
          rcases List.mem_cons.mp member with rfl | later
          · exact before
          · exact String.lt_trans before (first entry later)
        · next behind =>
          have after : held < key :=
            Std.lt_of_le_of_ne (String.not_lt.mp behind) differs
          refine List.pairwise_cons.mpr ⟨?_, ih others⟩
          intro entry member
          rcases mem_put member with rfl | old
          · exact after
          · exact first entry old

/-- Of two values that are put under one key the later stands. -/
theorem put_put (key : String) (first second : α) (entries : Entries α) :
    put key second (put key first entries) = put key second entries := by
  induction entries with
  | nil => simp [put]
  | cons pair rest ih =>
      obtain ⟨held, old⟩ := pair
      by_cases same : held = key
      · simp [put, same]
      · by_cases before : key < held
        · simp [put, same, before]
        · simp [put, same, before, ih]

theorem keys_cons (pair : String × α) (rest : Entries α) :
    keys (pair :: rest) = pair.1 :: keys rest := rfl

/-- Only the new key is added. -/
theorem mem_keys_put {key name : String} {value : α} {entries : Entries α} :
    name ∈ (put key value entries).keys ↔
      name = key ∨ name ∈ entries.keys := by
  induction entries with
  | nil => simp [put, keys]
  | cons pair rest ih =>
      obtain ⟨held, old⟩ := pair
      rw [put]
      split
      · next same => simp [keys_cons, same]
      · split
        · simp [keys_cons]
        · simp only [keys_cons, List.mem_cons, ih]
          exact or_left_comm

/-- The entries under other keys stay as they are, and in their order. -/
theorem filter_put (key : String) (value : α) (entries : Entries α) :
    (put key value entries).filter (fun entry => entry.1 ≠ key) =
      entries.filter fun entry => entry.1 ≠ key := by
  induction entries with
  | nil => simp [put]
  | cons pair rest ih =>
      obtain ⟨held, old⟩ := pair
      by_cases same : held = key
      · simp [put, same]
      · by_cases before : key < held
        · simp [put, same, before]
        · simp only [put, same, before, ↓reduceIte, List.filter_cons, ih]

/-- What holds of empty entries and is kept by every addition holds of the
entries that are collected from pairs. -/
theorem ofPairs_induction {P : Entries α → Prop} {pairs : List (String × α)}
    (empty : P [])
    (step : ∀ entries, P entries → ∀ pair ∈ pairs, P (put pair.1 pair.2 entries)) :
    P (ofPairs pairs) :=
  List.foldlRecOn pairs _ empty step

theorem sorted_ofPairs (pairs : List (String × α)) : (ofPairs pairs).Sorted :=
  ofPairs_induction List.Pairwise.nil fun _ sorted _ _ => sorted.put _ _

theorem mem_ofPairs {pairs : List (String × α)} {entry : String × α}
    (member : entry ∈ ofPairs pairs) : entry ∈ pairs := by
  revert member
  apply ofPairs_induction (P := fun entries => entry ∈ entries → entry ∈ pairs)
  · nofun
  · intro entries known pair inside member
    rcases mem_put member with rfl | old
    · exact inside
    · exact known old

/-- A key behind all others is put at the end. -/
theorem put_of_forall_lt {key : String} {entries : Entries α}
    (last : ∀ entry ∈ entries, entry.1 < key) (value : α) :
    put key value entries = entries ++ [(key, value)] := by
  induction entries with
  | nil => rfl
  | cons pair rest ih =>
      obtain ⟨before, others⟩ := List.forall_mem_cons.mp last
      rw [put, if_neg (Std.ne_of_lt before),
        if_neg fun after => String.lt_irrefl _ (String.lt_trans before after),
        ih others, List.cons_append]

theorem foldl_put_of_sorted {held entries : Entries α}
    (sorted : Sorted (held ++ entries)) :
    entries.foldl (fun held pair => put pair.1 pair.2 held) held =
      held ++ entries := by
  induction entries generalizing held with
  | nil => exact (List.append_nil held).symm
  | cons pair rest ih =>
      have last : ∀ entry ∈ held, entry.1 < pair.1 := fun entry member =>
        (List.pairwise_append.mp sorted).2.2 entry member pair
          List.mem_cons_self
      rw [List.append_cons] at sorted ⊢
      rw [List.foldl_cons, put_of_forall_lt last, ih sorted]

/-- Entries that are in order already are collected as they are. -/
theorem Sorted.ofPairs_eq_self {entries : Entries α} (sorted : entries.Sorted) :
    ofPairs entries = entries :=
  foldl_put_of_sorted sorted

end Entries

namespace Document

/-- The entries of all objects in the document are in the order of their keys,
each key once. -/
inductive Ordered : Document → Prop where
  | null : Ordered .null
  | bool (value : Bool) : Ordered (.bool value)
  | int (value : Int) : Ordered (.int value)
  | float (value : Float) : Ordered (.float value)
  | text (value : String) : Ordered (.text value)
  | list {items : List Document} (each : ∀ item ∈ items, Ordered item) :
      Ordered (.list items)
  | object {entries : List (String × Document)}
      (sorted : Entries.Sorted entries)
      (each : ∀ entry ∈ entries, Ordered entry.2) : Ordered (.object entries)

/-- An object with ordered parts is ordered. -/
theorem ordered_ofPairs {pairs : List (String × Document)}
    (each : ∀ pair ∈ pairs, pair.2.Ordered) : (ofPairs pairs).Ordered :=
  .object (Entries.sorted_ofPairs pairs) fun _ member =>
    each _ (Entries.mem_ofPairs member)

/-! ## Merged entries -/

variable {key : String} {entries changes : List (String × Document)}

/-- Without a change the lower entry is kept. -/
theorem get?_mergeEntries_of_none
    (absent : Entries.get? key changes = none) :
    Entries.get? key (mergeEntries entries changes) =
      Entries.get? key entries := by
  induction changes generalizing entries with
  | nil => rw [mergeEntries]
  | cons pair rest ih =>
      obtain ⟨held, change⟩ := pair
      rw [Entries.get?] at absent
      split at absent
      · cases absent
      · next differs =>
        rw [mergeEntries, ih absent, Entries.get?_put_of_ne (Ne.symm differs)]

/-- A change is laid over the lower entry. -/
theorem get?_mergeEntries_of_some (sorted : Entries.Sorted changes)
    {change : Document} (given : Entries.get? key changes = some change) :
    Entries.get? key (mergeEntries entries changes) =
      some (match Entries.get? key entries with
        | some held => merge held change
        | none => change) := by
  induction changes generalizing entries with
  | nil => cases given
  | cons pair rest ih =>
      obtain ⟨held, other⟩ := pair
      obtain ⟨first, others⟩ := List.pairwise_cons.mp sorted
      rw [Entries.get?] at given
      split at given
      · next same =>
        cases given
        subst same
        rw [mergeEntries]
        exact (get?_mergeEntries_of_none sorted.get?_tail).trans
          (Entries.get?_put_self held _ entries)
      · next differs =>
        rw [mergeEntries, ih others given,
          Entries.get?_put_of_ne (Ne.symm differs)]

theorem sorted_mergeEntries (sorted : Entries.Sorted entries) :
    Entries.Sorted (mergeEntries entries changes) := by
  induction changes generalizing entries with
  | nil => rwa [mergeEntries]
  | cons pair rest ih =>
      obtain ⟨held, change⟩ := pair
      rw [mergeEntries]
      exact ih (sorted.put _ _)

/-- Over no entries the changes are laid as they are. -/
theorem nil_mergeEntries (sorted : Entries.Sorted changes) :
    mergeEntries [] changes = changes := by
  refine (sorted_mergeEntries List.Pairwise.nil).ext sorted ?_
  intro key
  cases given : Entries.get? key changes with
  | none => exact get?_mergeEntries_of_none given
  | some change => exact get?_mergeEntries_of_some sorted given

/-- Documents that are laid over each other stay in order. -/
theorem Ordered.merge {lower upper : Document} (below : lower.Ordered)
    (above : upper.Ordered) : (lower.merge upper).Ordered := by
  induction above generalizing lower with
  | null => exact .null
  | bool value => exact .bool value
  | int value => exact .int value
  | float value => exact .float value
  | text value => exact .text value
  | list each => exact .list each
  | @object changes sorted each ih =>
      cases below with
      | @object entries kept parts =>
          have merged : Entries.Sorted (mergeEntries entries changes) :=
            sorted_mergeEntries kept
          rw [Document.merge]
          refine .object merged ?_
          rintro ⟨key, document⟩ member
          have found := merged.get?_eq_some_iff.mpr member
          cases given : Entries.get? key changes with
          | none =>
              rw [get?_mergeEntries_of_none given] at found
              exact parts _ (Entries.mem_of_get? found)
          | some change =>
              rw [get?_mergeEntries_of_some sorted given] at found
              have inside := Entries.mem_of_get? given
              cases old : Entries.get? key entries with
              | none =>
                  rw [old] at found
                  cases found
                  exact each _ inside
              | some held =>
                  rw [old] at found
                  cases found
                  exact ih _ inside (parts _ (Entries.mem_of_get? old))
      | _ => exact .object sorted each

end Document

end SqlWeave
