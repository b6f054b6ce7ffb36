import SqlWeave.Document.Json
import SqlWeave.Proofs.Document.Keys

/-!
# Documents read from JSON

What a scan yields is followed through its steps, whatever text it reads
(`Text.Scan.Yields`).  The reader of JSON puts objects together from the pairs
that it reads, so all documents that it yields are ordered.
-/

namespace SqlWeave

namespace Text.Scan

variable {α β : Type} {P : α → Prop} {Q : β → Prop}

/-- Whatever the scan reads, what it yields satisfies `P`. -/
def Yields (P : α → Prop) (scan : Scan α) : Prop :=
  ∀ input value rest, scan input = some (value, rest) → P value

namespace Yields

theorem pure {value : α} (held : P value) :
    Yields P (Pure.pure value : Scan α) := by
  intro input other rest found
  cases found
  exact held

theorem failure : Yields P (Alternative.failure : Scan α) := by
  intro input value rest found
  cases found

/-- The rest of a scan may rely on what its first part yields. -/
theorem bind {first : Scan α} {next : α → Scan β} (held : Yields P first)
    (later : ∀ value, P value → Yields Q (next value)) :
    Yields Q (first >>= next) := by
  intro input value rest found
  obtain ⟨⟨between, left⟩, read, others⟩ := Option.bind_eq_some_iff.mp found
  exact later between (held input between left read) left value rest others

theorem of_bind {first : Scan α} {next : α → Scan β}
    (later : ∀ value, Yields Q (next value)) : Yields Q (first >>= next) :=
  bind (P := fun _ => True) (fun _ _ _ _ => trivial) fun value _ => later value

/-- A scan that may give up goes on as if it had not. -/
theorem guarded {condition : Prop} [Decidable condition]
    {next : Unit → Scan β} (later : Yields Q (next ())) :
    Yields Q (if condition then Alternative.failure >>= next else next ()) := by
  split
  · intro input value rest found
    cases found
  · exact later

/-- A part that is only read under a condition yields nothing. -/
theorem optionally {condition : Prop} [Decidable condition]
    {first : Scan Unit} {next : Unit → Scan β}
    (later : ∀ value, Yields Q (next value)) :
    Yields Q (if condition then first >>= next else next ()) := by
  split
  · exact of_bind later
  · exact later ()

theorem orElse {first second : Scan α} (left : Yields P first)
    (right : Yields P second) : Yields P (first.orElse second) := by
  intro input value rest found
  unfold Scan.orElse at found
  split at found
  · next read =>
    cases found
    exact left input value rest read
  · exact right input value rest found

/-- A text that is read as a whole is no exception. -/
theorem readAll {scan : Scan α} (held : Yields P scan) {source : String}
    {value : α} (read : scan.readAll source = some value) : P value := by
  unfold Scan.readAll at read
  split at read
  · next found =>
    cases read
    exact held _ _ _ found
  · cases read

end Yields

end Text.Scan

open Text.Scan (Yields)

namespace Document

/-- A number is no composed document. -/
theorem scanNumber_ordered : Yields Ordered scanNumber := by
  refine .of_bind fun minus => .of_bind fun digits => .of_bind fun fraction =>
    .of_bind fun exponent => ?_
  dsimp only
  split
  · split
    · exact .pure (.int _)
    · split
      · exact .pure (.int _)
      · split
        · exact .pure (.float _)
        · exact .failure
  · split
    · exact .pure (.float _)
    · exact .failure

namespace Json

mutual

theorem scanDocument_ordered :
    (bound depth : Nat) → Yields Ordered (scanDocument bound depth)
  | 0, _ => .failure
  | bound + 1, depth => by
      rw [scanDocument]
      refine .of_bind fun _ => .of_bind fun next => ?_
      split
      · exact .of_bind fun _ => .pure .null
      · exact .of_bind fun _ => .pure (.bool true)
      · exact .of_bind fun _ => .pure (.bool false)
      · exact .of_bind fun value => .pure (.text value)
      · refine .guarded (.of_bind fun _ => .of_bind fun _ => .of_bind fun _ => ?_)
        split
        · exact .of_bind fun _ => .pure (.list nofun)
        · exact (scanItems_ordered bound (depth - 1)).bind fun items each =>
            .pure (.list each)
      · refine .guarded (.of_bind fun _ => .of_bind fun _ => .of_bind fun _ => ?_)
        split
        · exact .of_bind fun _ => .pure (.object List.Pairwise.nil nofun)
        · exact (scanPairs_ordered bound (depth - 1)).bind fun pairs each =>
            .pure (ordered_ofPairs each)
      · exact scanNumber_ordered

theorem scanItems_ordered :
    (bound depth : Nat) →
      Yields (fun items => ∀ item ∈ items, item.Ordered) (scanItems bound depth)
  | 0, _ => .failure
  | bound + 1, depth => by
      rw [scanItems]
      refine (scanDocument_ordered bound depth).bind fun item head =>
        .of_bind fun _ => .of_bind fun next => ?_
      split
      · exact (scanItems_ordered bound depth).bind fun items each =>
          .pure (List.forall_mem_cons.mpr ⟨head, each⟩)
      · exact .pure (List.forall_mem_singleton.mpr head)
      · exact .failure

theorem scanPairs_ordered :
    (bound depth : Nat) →
      Yields (fun pairs => ∀ pair ∈ pairs, pair.2.Ordered)
        (scanPairs bound depth)
  | 0, _ => .failure
  | bound + 1, depth => by
      rw [scanPairs]
      refine .of_bind fun _ => .of_bind fun key => .of_bind fun _ =>
        .of_bind fun _ => (scanDocument_ordered bound depth).bind
          fun value head => .of_bind fun _ => .of_bind fun next => ?_
      split
      · exact (scanPairs_ordered bound depth).bind fun pairs each =>
          .pure (List.forall_mem_cons.mpr ⟨head, each⟩)
      · exact .pure (List.forall_mem_singleton.mpr head)
      · exact .failure

end

/-- Documents read from JSON are ordered. -/
theorem ordered_of_read? {source : String} {document : Document}
    (read : read? source = some document) : document.Ordered :=
  Yields.readAll ((scanDocument_ordered _ _).bind fun _ ordered =>
    .of_bind fun _ => .pure ordered) read

end Json

end Document

end SqlWeave
