import SqlWeave.Proofs.Document.Reading
import SqlWeave.Toml.Reader

/-!
# Documents read from TOML

The tables of a TOML file are changed in place while it is read, so what is to
hold of its document has to hold of all tables on the way: the values without
parts in them are ordered documents (`Table.Sound`).  Every step of building the
tables keeps this, and the document of such tables is ordered.  It is an object,
or the text of a moment, but never a list.
-/

namespace SqlWeave.Toml

open Text.Scan (Yields)

/-- All values without parts in the node are ordered documents. -/
inductive Node.Sound : Node → Prop where
  | scalar {document : Document} (ordered : document.Ordered) :
      Sound (.scalar document)
  | moment (written : String) : Sound (.moment written)
  | list {items : List Node} (each : ∀ item ∈ items, Sound item) :
      Sound (.list items)
  | inline {table : Table} (each : ∀ entry ∈ table.entries, Sound entry.2) :
      Sound (.inline table)
  | table {table : Table} (each : ∀ entry ∈ table.entries, Sound entry.2) :
      Sound (.table table)
  | tables {latest : Table} {earlier : List Table}
      (last : ∀ entry ∈ latest.entries, Sound entry.2)
      (others : ∀ table ∈ earlier, ∀ entry ∈ table.entries, Sound entry.2) :
      Sound (.tables latest earlier)

/-- All values without parts in the table are ordered documents. -/
def Table.Sound (table : Table) : Prop :=
  ∀ entry ∈ table.entries, entry.2.Sound

/-! ## Documents of tables -/

/-- What holds of each part that is found holds of all that are listed. -/
theorem forall_mem_of_bind_cons {α β : Type} {P : β → Prop} (entry : α → β)
    {first? : Option α} {rest? : Option (List β)} {items : List β}
    (found : (first?.bind fun first => rest?.bind fun rest =>
      some (entry first :: rest)) = some items)
    (head : ∀ first, first? = some first → P (entry first))
    (tail : ∀ rest, rest? = some rest → ∀ item ∈ rest, P item) :
    ∀ item ∈ items, P item := by
  obtain ⟨first, given, more⟩ := Option.bind_eq_some_iff.mp found
  obtain ⟨rest, others, equal⟩ := Option.bind_eq_some_iff.mp more
  cases equal
  exact List.forall_mem_cons.mpr ⟨head first given, tail rest others⟩

/-- A moment that a string holds is a text. -/
theorem Node.exists_text_of_heldMoment? {node : Node} {document : Document}
    (held : node.heldMoment? = some document) :
    ∃ written, document = .text written := by
  unfold heldMoment? at held
  split at held
  · obtain ⟨written, _, rfl⟩ := Option.map_eq_some_iff.mp held
    exact ⟨written, rfl⟩
  · cases held

mutual

theorem Node.ordered_of_toDocument? :
    (node : Node) → node.Sound → ∀ document,
      node.toDocument? = some document → document.Ordered
  | .scalar held, sound, document, found => by
      cases found
      cases sound with
      | scalar ordered => exact ordered
  | .moment written, _, document, found => by
      cases found
      exact .text written
  | .list items, sound, document, found => by
      obtain ⟨documents, parts, rfl⟩ := Option.map_eq_some_iff.mp found
      cases sound with
      | list each =>
          exact .list (Node.ordered_of_toDocuments? items each documents parts)
  | .inline table, sound, document, found => by
      cases sound with
      | inline each =>
          exact Table.ordered_of_toDocument? table each document found
  | .table table, sound, document, found => by
      cases sound with
      | table each =>
          exact Table.ordered_of_toDocument? table each document found
  | .tables latest earlier, sound, document, found => by
      cases sound with
      | tables last others =>
          rw [Node.toDocument?] at found
          obtain ⟨final, open_, more⟩ := Option.bind_eq_some_iff.mp found
          obtain ⟨documents, closed, equal⟩ := Option.bind_eq_some_iff.mp more
          cases equal
          have first := Table.ordered_of_toDocument? latest last final open_
          have rest :=
            Table.ordered_of_toDocuments? earlier others documents closed
          apply Document.Ordered.list
          simp only [List.mem_reverse]
          exact List.forall_mem_cons.mpr ⟨first, rest⟩

theorem Node.ordered_of_toDocuments? :
    (nodes : List Node) → (∀ node ∈ nodes, node.Sound) → ∀ documents,
      Node.toDocuments? nodes = some documents →
        ∀ document ∈ documents, document.Ordered
  | [], _, documents, found => by
      cases found
      nofun
  | node :: rest, each, documents, found => by
      rw [Node.toDocuments?] at found
      obtain ⟨head, tail⟩ := List.forall_mem_cons.mp each
      exact forall_mem_of_bind_cons id found
        (Node.ordered_of_toDocument? node head)
        (Node.ordered_of_toDocuments? rest tail)

theorem Table.ordered_of_toDocument? :
    (table : Table) → table.Sound → ∀ document,
      table.toDocument? = some document → document.Ordered
  | ⟨origin, entries⟩, sound, document, found => by
      rw [Table.toDocument?] at found
      split at found
      · obtain ⟨written, rfl⟩ := Node.exists_text_of_heldMoment? found
        exact .text written
      · obtain ⟨pairs, parts, rfl⟩ := Option.map_eq_some_iff.mp found
        exact Document.ordered_ofPairs
          (Node.ordered_of_toPairs? entries sound pairs parts)

theorem Table.ordered_of_toDocuments? :
    (tables : List Table) → (∀ table ∈ tables, table.Sound) → ∀ documents,
      Table.toDocuments? tables = some documents →
        ∀ document ∈ documents, document.Ordered
  | [], _, documents, found => by
      cases found
      nofun
  | table :: rest, each, documents, found => by
      rw [Table.toDocuments?] at found
      obtain ⟨head, tail⟩ := List.forall_mem_cons.mp each
      exact forall_mem_of_bind_cons id found
        (Table.ordered_of_toDocument? table head)
        (Table.ordered_of_toDocuments? rest tail)

theorem Node.ordered_of_toPairs? :
    (entries : List (String × Node)) → (∀ entry ∈ entries, entry.2.Sound) →
      ∀ pairs, Node.toPairs? entries = some pairs →
        ∀ pair ∈ pairs, pair.2.Ordered
  | [], _, pairs, found => by
      cases found
      nofun
  | (key, node) :: rest, each, pairs, found => by
      rw [Node.toPairs?] at found
      obtain ⟨head, tail⟩ := List.forall_mem_cons.mp each
      exact forall_mem_of_bind_cons (Prod.mk key) found
        (Node.ordered_of_toDocument? node head)
        (Node.ordered_of_toPairs? rest tail)

end

/-- A table is an object or a moment. -/
theorem Table.toDocument?_ne_list (table : Table) (items : List Document) :
    table.toDocument? ≠ some (.list items) := by
  obtain ⟨origin, entries⟩ := table
  rw [toDocument?]
  intro found
  split at found
  · obtain ⟨written, other⟩ := Node.exists_text_of_heldMoment? found
    cases other
  · obtain ⟨pairs, _, other⟩ := Option.map_eq_some_iff.mp found
    cases other

/-! ## Building tables -/

namespace Table

theorem sound_empty (origin : Origin) : (empty origin).Sound := nofun

theorem Sound.get? {table : Table} (sound : table.Sound) {key : String}
    {node : Node} (found : table.get? key = some node) : node.Sound :=
  sound _ (Entries.mem_of_get? found)

theorem mem_putEntry {key : String} {node : Node}
    {entries : List (String × Node)} {entry : String × Node}
    (member : entry ∈ putEntry key node entries) :
    entry = (key, node) ∨ entry ∈ entries := by
  induction entries with
  | nil => exact .inl (List.mem_singleton.mp member)
  | cons pair rest ih =>
      obtain ⟨held, old⟩ := pair
      rw [putEntry] at member
      split at member
      · exact (List.mem_cons.mp member).imp_right (List.mem_cons_of_mem _)
      · rcases List.mem_cons.mp member with first | later
        · exact .inr (first ▸ List.mem_cons_self)
        · exact (ih later).imp_right (List.mem_cons_of_mem _)

theorem Sound.put {table : Table} (sound : table.Sound) (key : String)
    {node : Node} (held : node.Sound) : (table.put key node).Sound := by
  intro entry member
  rcases mem_putEntry member with rfl | old
  · exact held
  · exact sound entry old

theorem Sound.putLast {table : Table} (sound : table.Sound) (key : String)
    {node : Node} (held : node.Sound) : (table.putLast key node).Sound := by
  intro entry member
  rcases List.mem_append.mp member with old | new
  · exact sound entry (List.mem_filter.mp old).1
  · rw [List.mem_singleton.mp new]
    exact held

/-- A change that keeps tables sound does so at the end of every path. -/
theorem Sound.changeAt {origin : Origin} {change : Table → Option Table}
    (keeps : ∀ inner changed, inner.Sound → change inner = some changed →
      changed.Sound) {path : List String} {table changed : Table}
    (sound : table.Sound)
    (done : Table.changeAt origin change path table = some changed) :
    changed.Sound := by
  induction path generalizing table changed with
  | nil => exact keeps table changed sound done
  | cons key path ih =>
      rw [Table.changeAt] at done
      split at done
      · obtain ⟨inner, within, equal⟩ := Option.bind_eq_some_iff.mp done
        cases equal
        exact sound.put key (.table (ih (sound_empty origin) within))
      · next inner found =>
        cases sound.get? found with
        | table each =>
            split at done
            · cases done
            · obtain ⟨changed, within, equal⟩ :=
                Option.bind_eq_some_iff.mp done
              cases equal
              exact sound.put key (.table (ih each within))
      · next latest earlier found =>
        cases sound.get? found with
        | tables last others =>
            obtain ⟨changed, within, equal⟩ := Option.bind_eq_some_iff.mp done
            cases equal
            exact sound.put key (.tables (ih last within) others)
      · cases done

theorem Sound.insert {table changed : Table} (sound : table.Sound)
    {path : List String} {key : String} {node : Node} (held : node.Sound)
    (done : table.insert path key node = some changed) : changed.Sound := by
  refine sound.changeAt ?_ done
  intro inner other within set
  split at set
  · cases set
  · split at set
    · cases set
    · cases set
      exact within.put key held

theorem Sound.nodeAt? {table : Table} (sound : table.Sound) {key : String}
    {path : List String} {node : Node}
    (found : Builder.nodeAt? key path table = some node) : node.Sound := by
  induction path generalizing table with
  | nil => exact sound.get? found
  | cons step path ih =>
      rw [Builder.nodeAt?] at found
      split at found
      · next inner within =>
        cases sound.get? within with
        | table each => exact ih each found
      · next latest earlier within =>
        cases sound.get? within with
        | tables last _ => exact ih last found
      · cases found

end Table

namespace Builder

/-- The finished tables and the one that keys are added to are sound. -/
structure Sound (builder : Builder) : Prop where
  root : builder.root.Sound
  current : builder.current.Sound

theorem sound_start : start.Sound :=
  ⟨Table.sound_empty .explicit, Table.sound_empty .explicit⟩

variable {builder opened : Builder} (sound : builder.Sound)

include sound

theorem Sound.close {root : Table} (closed : builder.close = some root) :
    root.Sound := by
  unfold Builder.close at closed
  split at closed
  · cases closed
    exact sound.current
  · refine sound.root.changeAt ?_ closed
    intro parent changed within set
    split at set
    · cases set
      exact within.put _ (.tables sound.current nofun)
    · next latest earlier _ found =>
      cases set
      cases within.get? found with
      | tables last others =>
          exact within.put _ (.tables sound.current
            (List.forall_mem_cons.mpr ⟨last, others⟩))
    · cases set
      exact within.put _ (.table sound.current)
    · split at set
      · cases set
        exact within.putLast _ (.table sound.current)
      · cases set
    · cases set

theorem Sound.openTable {parent : List String} {key : String}
    (done : builder.openTable parent key = some opened) : opened.Sound := by
  obtain ⟨root, closed, rest⟩ := Option.bind_eq_some_iff.mp done
  have whole := sound.close closed
  split at rest
  · cases rest
  · split at rest
    · cases rest
      exact ⟨whole, Table.sound_empty .explicit⟩
    · next held found =>
      split at rest
      · cases rest
        cases whole.nodeAt? found with
        | table each => exact ⟨whole, each⟩
      · cases rest
    · cases rest

theorem Sound.openRepeated {parent : List String} {key : String}
    (done : builder.openRepeated parent key = some opened) : opened.Sound := by
  obtain ⟨root, closed, rest⟩ := Option.bind_eq_some_iff.mp done
  have whole := sound.close closed
  split at rest
  · cases rest
  · split at rest
    · cases rest
      exact ⟨whole, Table.sound_empty .explicit⟩
    · cases rest
      exact ⟨whole, Table.sound_empty .explicit⟩
    · cases rest

theorem Sound.add {path : List String} {key : String} {node : Node}
    (held : node.Sound) (done : builder.add path key node = some opened) :
    opened.Sound := by
  obtain ⟨current, inserted, equal⟩ := Option.bind_eq_some_iff.mp done
  cases equal
  exact ⟨sound.root, sound.current.insert held inserted⟩

/-- The document of a file is ordered, and no list. -/
theorem Sound.finish {document : Document}
    (finished : builder.finish = some document) :
    document.Ordered ∧ ∀ items, document ≠ .list items := by
  obtain ⟨root, closed, found⟩ := Option.bind_eq_some_iff.mp finished
  constructor
  · exact Table.ordered_of_toDocument? root (sound.close closed) document found
  · rintro items rfl
    exact root.toDocument?_ne_list items found

end Builder

/-! ## Scans -/

theorem wholeOf?_ordered {number : Int} {document : Document}
    (found : wholeOf? number = some document) : document.Ordered := by
  unfold wholeOf? at found
  split at found
  · cases found
    exact .int number
  · cases found

theorem scanBased_ordered (mark : Char) (base : Nat) :
    Yields Document.Ordered (scanBased mark base) := by
  refine .of_bind fun _ => .of_bind fun digits => ?_
  split
  · next found => exact .pure (wholeOf?_ordered found)
  · exact .failure

theorem scanDecimal_ordered : Yields Document.Ordered scanDecimal := by
  refine .of_bind fun negative => .of_bind fun digits => ?_
  dsimp only
  split
  · next found => exact .pure (wholeOf?_ordered found)
  · exact .failure

theorem scanDouble_ordered : Yields Document.Ordered scanDouble := by
  refine .of_bind fun negative => .of_bind fun whole => .of_bind fun places =>
    .of_bind fun exponent => .guarded ?_
  dsimp only
  split
  · split
    · exact .pure .null
    · exact .failure
  · exact .pure (.float _)

theorem scanUnbounded_ordered : Yields Document.Ordered scanUnbounded :=
  .of_bind fun _ => .of_bind fun _ => .pure .null

/-- A number is a value without parts. -/
theorem scanNumber_ordered : Yields Document.Ordered scanNumber :=
  scanDouble_ordered.orElse <| scanUnbounded_ordered.orElse <|
    (scanBased_ordered 'x' 16).orElse <| (scanBased_ordered 'o' 8).orElse <|
      (scanBased_ordered 'b' 2).orElse scanDecimal_ordered

mutual

theorem scanValue_sound :
    (bound depth : Nat) → Yields Node.Sound (scanValue bound depth)
  | 0, _ => .failure
  | bound + 1, depth => by
      rw [scanValue]
      refine .of_bind fun next => ?_
      split
      · exact .of_bind fun held => .pure (.scalar (.text held))
      · exact .of_bind fun held => .pure (.scalar (.text held))
      · exact .guarded (.of_bind fun _ =>
          (scanItems_sound bound (depth - 1)).bind fun _ each =>
            .pure (.list each))
      · refine .guarded (.of_bind fun _ => .of_bind fun _ =>
          .of_bind fun close => ?_)
        split
        · exact .of_bind fun _ => .pure (.inline (Table.sound_empty .explicit))
        · exact (scanPairs_sound bound (depth - 1) (Table.sound_empty
            .explicit)).bind fun _ sound => .pure (.inline sound)
      · exact .of_bind fun _ => .pure (.scalar (.bool true))
      · exact .of_bind fun _ => .pure (.scalar (.bool false))
      · refine .of_bind fun moment => ?_
        split
        · exact .pure (.moment _)
        · exact scanNumber_ordered.bind fun _ ordered => .pure (.scalar ordered)

theorem scanItems_sound :
    (bound depth : Nat) →
      Yields (fun items => ∀ item ∈ items, item.Sound) (scanItems bound depth)
  | 0, _ => .failure
  | bound + 1, depth => by
      rw [scanItems]
      refine .of_bind fun _ => .of_bind fun close => ?_
      split
      · exact .of_bind fun _ => .pure nofun
      · refine (scanValue_sound bound depth).bind fun item head =>
          .of_bind fun _ => .of_bind fun next => ?_
        split
        · exact (scanItems_sound bound depth).bind fun items each =>
            .pure (List.forall_mem_cons.mpr ⟨head, each⟩)
        · exact .pure (List.forall_mem_singleton.mpr head)
        · exact .failure

theorem scanPairs_sound :
    (bound depth : Nat) → {table : Table} → table.Sound →
      Yields Table.Sound (scanPairs bound depth table)
  | 0, _, _, _ => .failure
  | bound + 1, depth, table, sound => by
      rw [scanPairs]
      refine .of_bind fun _ => .of_bind fun _ => .of_bind fun _ =>
        (scanValue_sound bound depth).bind fun value held =>
          .of_bind fun _ => ?_
      split
      · exact .failure
      · next inserted =>
        have changed := sound.insert held inserted
        refine .of_bind fun next => ?_
        split
        · exact scanPairs_sound bound depth changed
        · exact .pure changed
        · exact .failure

end

theorem scanHeader_sound (bound : Nat) {builder : Builder}
    (sound : builder.Sound) :
    Yields Builder.Sound (scanHeader bound builder) := by
  refine .of_bind fun _ => .of_bind fun next => .optionally fun _ =>
    .of_bind fun _ => .of_bind fun _ => .optionally fun _ =>
      .of_bind fun _ => ?_
  split
  · next opened =>
    split at opened
    · exact .pure (sound.openRepeated opened)
    · exact .pure (sound.openTable opened)
  · exact .failure

theorem scanPair_sound (bound : Nat) {builder : Builder}
    (sound : builder.Sound) :
    Yields Builder.Sound (scanPair bound builder) := by
  refine .of_bind fun _ => .of_bind fun _ => .of_bind fun _ =>
    (scanValue_sound bound _).bind fun value held => .of_bind fun _ => ?_
  split
  · next added => exact .pure (sound.add held added)
  · exact .failure

theorem scanFile_sound (bound : Nat) {builder : Builder}
    (sound : builder.Sound) : Yields Builder.Sound (scanFile bound builder) := by
  induction bound generalizing builder with
  | zero => exact .failure
  | succ bound ih =>
      rw [scanFile]
      refine .of_bind fun _ => .of_bind fun next => ?_
      split
      · exact .pure sound
      · exact .of_bind fun _ => .of_bind fun _ => ih sound
      · exact .of_bind fun _ => ih sound
      · exact .of_bind fun _ => ih sound
      · exact (scanHeader_sound bound sound).bind fun _ opened => ih opened
      · exact (scanPair_sound bound sound).bind fun _ added => ih added

/-- Documents read from TOML are ordered, and no lists. -/
theorem ordered_of_read? {source : String} {document : Document}
    (read : read? source = some document) :
    document.Ordered ∧ ∀ items, document ≠ .list items := by
  obtain ⟨builder, scanned, finished⟩ := Option.bind_eq_some_iff.mp read
  have sound : builder.Sound :=
    Yields.readAll (.of_bind fun _ => scanFile_sound _ Builder.sound_start)
      scanned
  exact sound.finish finished

end SqlWeave.Toml
