import SqlWeave.Proofs.Document.Keys

/-!
# Paths of documents

A path is a list of keys that are followed from object to object.  A document
that is laid over another one keeps what it holds at its paths, but for the
objects that both hold; those are laid over each other in turn.  Where a path
leaves it, the lower document shows through (`Document.merge_paths`).  All of
this takes objects to hold each key once, which ordered documents do.
-/

namespace SqlWeave.Document

/-- What the document holds where the path ends. -/
def at? : List String → Document → Option Document
  | [], document => some document
  | key :: path, document => (document.get? key).bind (at? path)

/-- Whether the document is an object. -/
def isObject : Document → Bool
  | object _ => true
  | _ => false

variable {lower upper : Document} {key : String} {path : List String}

/-- The parts of an ordered document are ordered. -/
theorem Ordered.get? {document held : Document} (ordered : document.Ordered)
    (found : document.get? key = some held) : held.Ordered := by
  cases ordered with
  | object sorted each => exact each _ (Entries.mem_of_get? found)
  | _ => cases found

/-! ## One key -/

theorem merge_of_not_object (leaf : upper.isObject = false) :
    lower.merge upper = upper := by
  cases upper with
  | object changes => cases leaf
  | _ => rfl

/-- Over a document without keys a document is laid as it is. -/
theorem Ordered.merge_of_empty (above : upper.Ordered)
    (empty : ∀ key, lower.get? key = none) : lower.merge upper = upper := by
  cases above with
  | @object changes sorted each =>
      cases lower with
      | object entries =>
          cases entries with
          | nil =>
              rw [Document.merge, nil_mergeEntries sorted]
          | cons pair rest =>
              have held := empty pair.1
              rw [Document.get?, Entries.get?, if_pos rfl] at held
              cases held
      | _ => rfl
  | _ => rfl

/-- A key that the upper object does not have shows the lower document. -/
theorem get?_merge_of_none (object : upper.isObject = true)
    (absent : upper.get? key = none) :
    (lower.merge upper).get? key = lower.get? key := by
  cases upper with
  | object changes =>
      cases lower with
      | object entries =>
          rw [merge]
          exact get?_mergeEntries_of_none absent
      | _ => exact absent
  | _ => cases object

/-- Under a key that both have, the upper part is laid over the lower one. -/
theorem get?_merge_of_some (lower : Document) (above : upper.Ordered)
    {change : Document} (given : upper.get? key = some change) :
    (lower.merge upper).get? key =
      some (match lower.get? key with
        | some held => held.merge change
        | none => change) := by
  cases above with
  | object sorted each =>
      cases lower with
      | object entries =>
          rw [merge]
          exact get?_mergeEntries_of_some sorted given
      | _ => exact given
  | _ => cases given

/-- What the upper document holds under a key stands as it is, if the lower one
holds no keys there. -/
theorem get?_merge_of_empty (lower : Document) (above : upper.Ordered)
    {change : Document} (given : upper.get? key = some change)
    (empty : ∀ held, lower.get? key = some held →
      ∀ inner, held.get? inner = none) :
    (lower.merge upper).get? key = some change := by
  rw [get?_merge_of_some lower above given]
  cases inside : lower.get? key with
  | none => rfl
  | some held =>
      exact congrArg some ((above.get? given).merge_of_empty (empty held inside))

/-! ## Paths -/

theorem at?_merge_of_leaf (above : upper.Ordered) {leaf : Document}
    (found : upper.at? path = some leaf) (solid : leaf.isObject = false) :
    (lower.merge upper).at? path = some leaf := by
  induction path generalizing lower upper with
  | nil =>
      cases found
      rw [merge_of_not_object solid]
      rfl
  | cons key path ih =>
      obtain ⟨change, given, later⟩ := Option.bind_eq_some_iff.mp found
      rw [at?, get?_merge_of_some lower above given, Option.bind_some]
      cases lower.get? key with
      | none => exact later
      | some held => exact ih (above.get? given) later

/-- The lower document shows through where the upper one holds nothing, if all
that it holds on the way are objects. -/
theorem at?_merge_of_absent (above : upper.Ordered) {held : Document}
    (found : lower.at? path = some held) (absent : upper.at? path = none)
    (passable : ∀ front, front <+: path → front ≠ path →
      ∀ passed, upper.at? front = some passed → passed.isObject = true) :
    (lower.merge upper).at? path = some held := by
  induction path generalizing lower upper with
  | nil => cases absent
  | cons key path ih =>
      obtain ⟨part, inside, later⟩ := Option.bind_eq_some_iff.mp found
      have object : upper.isObject = true :=
        passable [] List.nil_prefix (List.cons_ne_nil key path).symm upper rfl
      cases given : upper.get? key with
      | none =>
          rw [at?, get?_merge_of_none object given]
          exact found
      | some change =>
          rw [at?, get?_merge_of_some lower above given, inside, Option.bind_some]
          rw [at?, given, Option.bind_some] at absent
          apply ih (above.get? given) later absent
          intro front before shorter passed reached
          apply passable (key :: front)
          · exact List.cons_prefix_cons.mpr ⟨rfl, before⟩
          · intro equal
            exact shorter (List.cons.inj equal).2
          · rw [at?, given, Option.bind_some, reached]

/-- What is held at a path was held there by one of the documents, or by both and
is merged. -/
theorem at?_merge_cases (above : upper.Ordered) {found : Document}
    (reached : (lower.merge upper).at? path = some found) :
    lower.at? path = some found ∨ upper.at? path = some found ∨
      ∃ held change, lower.at? path = some held ∧
        upper.at? path = some change ∧ found = held.merge change := by
  induction path generalizing lower upper with
  | nil =>
      cases reached
      exact .inr (.inr ⟨lower, upper, rfl, rfl, rfl⟩)
  | cons key path ih =>
      cases object : upper.isObject with
      | false =>
          rw [merge_of_not_object object] at reached
          exact .inr (.inl reached)
      | true =>
          simp only [at?] at reached ⊢
          cases given : upper.get? key with
          | none =>
              rw [get?_merge_of_none object given] at reached
              exact .inl reached
          | some change =>
              rw [get?_merge_of_some lower above given, Option.bind_some] at reached
              cases inside : lower.get? key with
              | none =>
                  rw [inside] at reached
                  exact .inr (.inl reached)
              | some held =>
                  rw [inside] at reached
                  exact ih (above.get? given) reached

/-! ## Repetition -/

/-- A document that is laid over itself changes nothing. -/
theorem Ordered.merge_self {document : Document} (ordered : document.Ordered) :
    document.merge document = document := by
  induction ordered with
  | @object entries sorted each ih =>
      rw [Document.merge]
      refine congrArg Document.object ((sorted_mergeEntries sorted).ext sorted ?_)
      intro key
      cases given : Entries.get? key entries with
      | none => rw [get?_mergeEntries_of_none given, given]
      | some part =>
          rw [get?_mergeEntries_of_some sorted given, given]
          exact congrArg some (ih _ (Entries.mem_of_get? given))
  | _ => rfl

/-- A document that is laid over the same one again changes nothing more. -/
theorem Ordered.merge_merge (below : lower.Ordered) (above : upper.Ordered) :
    (lower.merge upper).merge upper = lower.merge upper := by
  induction above generalizing lower with
  | @object changes sorted each ih =>
      have above : (Document.object changes).Ordered := .object sorted each
      cases below with
      | @object entries kept parts =>
          rw [Document.merge, Document.merge]
          have merged : Entries.Sorted (mergeEntries entries changes) :=
            sorted_mergeEntries kept
          refine congrArg Document.object ((sorted_mergeEntries merged).ext merged ?_)
          intro key
          cases given : Entries.get? key changes with
          | none => exact get?_mergeEntries_of_none given
          | some change =>
              have inside := Entries.mem_of_get? given
              rw [get?_mergeEntries_of_some sorted given,
                get?_mergeEntries_of_some sorted given]
              cases old : Entries.get? key entries with
              | none => exact congrArg some (each _ inside).merge_self
              | some held =>
                  have part : held.Ordered := parts _ (Entries.mem_of_get? old)
                  exact congrArg some (ih _ inside part)
      | _ => exact above.merge_self
  | _ => rfl

/-- What a document holds that is laid over another one: at each path where the
upper one holds no object but something else, just that; at each path where the
upper one holds nothing, and nothing but objects on the way, what the lower one
holds there; and at no path what neither of them holds.  Laying the document over
the result again changes nothing. -/
theorem merge_paths (lower upper : Document) (below : lower.Ordered)
    (above : upper.Ordered) :
    (∀ path leaf, upper.at? path = some leaf → leaf.isObject = false →
      (lower.merge upper).at? path = some leaf) ∧
    (∀ path held, lower.at? path = some held → upper.at? path = none →
      (∀ front, front <+: path → front ≠ path →
        ∀ passed, upper.at? front = some passed → passed.isObject = true) →
      (lower.merge upper).at? path = some held) ∧
    (∀ path found, (lower.merge upper).at? path = some found →
      lower.at? path = some found ∨ upper.at? path = some found ∨
        ∃ held change, lower.at? path = some held ∧
          upper.at? path = some change ∧ found = held.merge change) ∧
    (lower.merge upper).merge upper = lower.merge upper := by
  refine ⟨?_, ?_, ?_, below.merge_merge above⟩
  · intro path leaf found solid
    exact at?_merge_of_leaf above found solid
  · intro path held found absent passable
    exact at?_merge_of_absent above found absent passable
  · intro path found reached
    exact at?_merge_cases above reached

/-- A document with two numbers, and one that changes the second. -/
def numbered : Document :=
  object [("a", object [("b", int 1), ("c", int 2)]), ("d", null)]

def renumbered : Document :=
  object [("a", object [("c", int 3)]), ("d", object [])]

theorem merge_paths_numbered :
    numbered.Ordered ∧ renumbered.Ordered ∧
    (numbered.merge renumbered).at? ["a", "c"] = some (int 3) ∧
    (numbered.merge renumbered).at? ["a", "b"] = some (int 1) ∧
    (numbered.merge renumbered).merge renumbered =
      numbered.merge renumbered := by
  have below : numbered.Ordered := by
    refine .object (List.pairwise_pair.mpr (by decide)) ?_
    simp only [List.forall_mem_cons]
    refine ⟨.object (List.pairwise_pair.mpr (by decide)) ?_, .null, nofun⟩
    simp only [List.forall_mem_cons]
    exact ⟨.int 1, .int 2, nofun⟩
  have above : renumbered.Ordered := by
    refine .object (List.pairwise_pair.mpr (by decide)) ?_
    simp only [List.forall_mem_cons]
    refine ⟨.object (List.pairwise_singleton _ _) ?_,
      .object .nil nofun, nofun⟩
    simp only [List.forall_mem_cons]
    exact ⟨.int 3, nofun⟩
  obtain ⟨leaves, shown, _, again⟩ :=
    merge_paths numbered renumbered below above
  refine ⟨below, above, leaves _ _ rfl rfl, shown _ _ rfl rfl ?_, again⟩
  intro front before shorter passed reached
  -- Two paths are shorter, and the upper document holds an object at each.
  rcases List.prefix_cons_iff.mp before with rfl | ⟨rest, rfl, later⟩
  · cases reached
    rfl
  · rcases List.prefix_cons_iff.mp later with rfl | ⟨other, rfl, last⟩
    · cases reached
      rfl
    · cases List.prefix_nil.mp last
      exact absurd rfl shorter

end SqlWeave.Document
