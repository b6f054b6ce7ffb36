import Mathlib.Tactic.SplitIfs
import SqlWeave.Document.Json
import SqlWeave.Document.Printer
import SqlWeave.Proofs.Document.Keys
import SqlWeave.Proofs.Text.Scanning

/-!
# Documents read as they were written

The reader of JSON takes what the printer writes for a document without
numbers, whatever follows, so it reads such a document back from its text
(`Document.Json.read?_render`).
-/

namespace SqlWeave

open Text.Scan (Takes)

namespace Document

/-! ## Strings -/

theorem toList_quoted (value : String) :
    (quoted value).toList =
      '"' :: (value.toList.flatMap escapeChar ++ ['"']) := by
  simp [quoted]

namespace Json

theorem takes_scanUnit {a b c d : Char} {w x y z : Nat}
    (first : Text.hexValue? a = some w) (second : Text.hexValue? b = some x)
    (third : Text.hexValue? c = some y) (fourth : Text.hexValue? d = some z) :
    Takes scanUnit [a, b, c, d] (((w * 16 + x) * 16 + y) * 16 + z) := by
  intro rest
  simp [scanUnit, Text.Scan.bind_apply, Text.Scan.pure_apply, Text.Scan.next,
    first, second, third, fourth]

/-- A code point that is no surrogate is read from one escape. -/
theorem takes_scanUnicodeEscape {a b c d : Char} {w x y z : Nat} {char : Char}
    (first : Text.hexValue? a = some w) (second : Text.hexValue? b = some x)
    (third : Text.hexValue? c = some y) (fourth : Text.hexValue? d = some z)
    (code : ((w * 16 + x) * 16 + y) * 16 + z = char.toNat)
    (low : char.toNat < 0xD800) :
    Takes scanUnicodeEscape [a, b, c, d] char := by
  have unit := takes_scanUnit first second third fourth
  rw [code] at unit
  have valid : scalar? char.toNat = some char := by
    rw [scalar?, dif_pos (.inl low)]
    rfl
  show Takes _ ([a, b, c, d] ++ []) _
  refine unit.bind ?_
  rw [if_neg (by omega), pure_bind]
  simp only [valid]
  exact .pure char

/-- A character is written as it is, or as an escape that is read as it. -/
theorem escapeChar_cases (char : Char) :
    (escapeChar char = [char] ∧ char ≠ '"' ∧ char ≠ '\\' ∧
        ¬ char.toNat < 0x20) ∨
      ∃ escape, escapeChar char = '\\' :: escape ∧
        Takes scanEscape escape char := by
  rw [escapeChar]
  split_ifs with quote backslash control
  · subst quote
    exact .inr ⟨['"'], rfl, .bind_next (.pure _)⟩
  · subst backslash
    exact .inr ⟨['\\'], rfl, .bind_next (.pure _)⟩
  · refine .inr ⟨_, rfl, .bind_next (takes_scanUnicodeEscape rfl rfl
      (Text.hexValue?_hexDigit ?_) (Text.hexValue?_hexDigit ?_) ?_ ?_)⟩ <;>
      omega
  · exact .inl ⟨rfl, quote, backslash, control⟩

theorem length_escapeChar_pos (char : Char) : 0 < (escapeChar char).length := by
  obtain ⟨plain, _⟩ | ⟨escape, escaped, _⟩ := escapeChar_cases char
  · simp [plain]
  · simp [escaped]

/-- A written character is read back, and then the others. -/
theorem takes_scanCharacters_cons {bound : Nat} {char : Char}
    {text rest : List Char} (goes : Takes (scanCharacters bound) text rest) :
    Takes (scanCharacters (bound + 1)) (escapeChar char ++ text)
      (char :: rest) := by
  have kept := goes.map (char :: ·)
  rw [scanCharacters]
  obtain ⟨plain, quote, backslash, control⟩ | ⟨escape, escaped, read⟩ :=
    escapeChar_cases char
  · rw [plain]
    refine .bind_next ?_
    split
    · contradiction
    · contradiction
    · exact kept.guarded control
  · rw [escaped]
    exact .bind_next (read.bind kept)

theorem takes_scanCharacters (chars : List Char) (bound : Nat)
    (enough : chars.length < bound) :
    Takes (scanCharacters bound) (chars.flatMap escapeChar ++ ['"']) chars := by
  induction chars generalizing bound with
  | nil =>
      obtain ⟨bound, rfl⟩ := Nat.exists_eq_add_one.mpr enough
      exact .bind_next (.pure [])
  | cons char rest ih =>
      obtain ⟨bound, rfl⟩ :=
        Nat.exists_eq_add_one.mpr (Nat.zero_lt_of_lt enough)
      rw [List.flatMap_cons, List.append_assoc]
      exact takes_scanCharacters_cons (ih bound (Nat.lt_of_succ_lt_succ enough))

/-- A string is written with at least its own characters and two quotes. -/
theorem length_lt_length_quoted (value : String) :
    value.toList.length + 1 < (quoted value).toList.length := by
  have each : value.toList.length ≤
      (value.toList.flatMap escapeChar).length := by
    induction value.toList with
    | nil => exact Nat.zero_le _
    | cons char rest ih =>
        have := length_escapeChar_pos char
        rw [List.flatMap_cons, List.length_append, List.length_cons]
        omega
  simp only [toList_quoted, List.length_cons, List.length_append,
    List.length_nil]
  omega

theorem takes_scanString (value : String) {bound : Nat}
    (enough : (quoted value).toList.length ≤ bound) :
    Takes (scanString bound) (quoted value).toList value := by
  have long := length_lt_length_quoted value
  have taken := (takes_scanCharacters value.toList bound (by omega)).map
    String.ofList
  rw [String.ofList_toList] at taken
  rw [toList_quoted]
  exact .bind_exactly taken

/-! ## Documents -/

theorem skipSpaces_apply (input : List Char) :
    skipSpaces input = some ((), input.dropWhile isSpace) :=
  rfl

theorem bind_skipSpaces {β : Type} {next : Unit → Text.Scan β} {char : Char}
    {back : List Char} {result : β} (solid : isSpace char = false)
    (goes : Takes (next ()) (char :: back) result) :
    Takes (skipSpaces >>= next) (char :: back) result := by
  intro rest
  rw [← goes rest]
  simp [Text.Scan.bind_apply, skipSpaces_apply, solid]

end Json

/-- The document has no numbers, its objects are in order, and it is nested no
deeper than this. -/
inductive Plain : Nat → Document → Prop where
  | null {depth : Nat} : Plain depth .null
  | bool {depth : Nat} (value : Bool) : Plain depth (.bool value)
  | text {depth : Nat} (value : String) : Plain depth (.text value)
  | list {depth : Nat} {items : List Document}
      (each : ∀ item ∈ items, Plain depth item) :
      Plain (depth + 1) (.list items)
  | object {depth : Nat} {entries : List (String × Document)}
      (sorted : Entries.Sorted entries)
      (each : ∀ entry ∈ entries, Plain depth entry.2) :
      Plain (depth + 1) (.object entries)

theorem Plain.ordered {depth : Nat} {document : Document}
    (plain : document.Plain depth) : document.Ordered := by
  induction plain with
  | null => exact .null
  | bool value => exact .bool value
  | text value => exact .text value
  | list _ ih => exact .list ih
  | object sorted _ ih => exact .object sorted ih

/-- The characters of texts with commas between them. -/
def listed (texts : List String) : List Char := (",".intercalate texts).toList

theorem listed_singleton (text : String) : listed [text] = text.toList := by
  simp [listed]

theorem listed_cons_cons (text next : String) (rest : List String) :
    listed (text :: next :: rest) =
      text.toList ++ ',' :: listed (next :: rest) := by
  simp [listed, String.intercalate_cons_cons]

theorem exists_listed_cons (text : String) (rest : List String) :
    ∃ others, listed (text :: rest) = text.toList ++ others := by
  cases rest with
  | nil => exact ⟨[], by rw [listed_singleton, List.append_nil]⟩
  | cons next rest => exact ⟨_, listed_cons_cons text next rest⟩

theorem toList_render_list (items : List Document) :
    (list items).render.toList =
      '[' :: (listed (renderItems items) ++ [']']) := by
  simp [render, listed]

theorem toList_render_object (entries : List (String × Document)) :
    (object entries).render.toList =
      '\x7b' :: (listed (renderEntries entries) ++ ['\x7d']) := by
  simp [render, listed]

/-- No document is written with a space or a closing bracket in front. -/
theorem Plain.exists_front {depth : Nat} {document : Document}
    (plain : document.Plain depth) :
    ∃ char back, document.render.toList = char :: back ∧
      Json.isSpace char = false ∧ char ≠ ']' := by
  cases plain with
  | null => exact ⟨'n', _, rfl, by decide, by decide⟩
  | bool value =>
      cases value
      · exact ⟨'f', _, rfl, by decide, by decide⟩
      · exact ⟨'t', _, rfl, by decide, by decide⟩
  | text value => exact ⟨_, _, toList_quoted value, by decide, by decide⟩
  | list each => exact ⟨_, _, toList_render_list _, by decide, by decide⟩
  | object sorted each =>
      exact ⟨_, _, toList_render_object _, by decide, by decide⟩

namespace Json

/-- The scan takes the text of the document, given enough steps. -/
def ReadsBack (depth : Nat) (document : Document) : Prop :=
  ∀ bound, document.render.toList.length ≤ bound →
    Takes (scanDocument (bound + 1) depth) document.render.toList document

theorem ReadsBack.takes {depth bound : Nat} {document : Document}
    (read : ReadsBack depth document)
    (enough : document.render.toList.length < bound) :
    Takes (scanDocument bound depth) document.render.toList document := by
  obtain ⟨bound, rfl⟩ := Nat.exists_eq_add_one.mpr (Nat.zero_lt_of_lt enough)
  exact read bound (Nat.le_of_lt_succ enough)

theorem takes_scanItems {depth : Nat} {items : List Document}
    (some : items ≠ [])
    (each : ∀ item ∈ items, ReadsBack depth item) (bound : Nat)
    (enough : (listed (renderItems items)).length + 1 < bound) :
    Takes (scanItems bound depth) (listed (renderItems items) ++ [']'])
      items := by
  induction items generalizing bound with
  | nil => exact absurd rfl some
  | cons item others ih =>
      obtain ⟨bound, rfl⟩ :=
        Nat.exists_eq_add_one.mpr (Nat.zero_lt_of_lt enough)
      rw [scanItems]
      cases others with
      | nil =>
          rw [renderItems, renderItems, listed_singleton] at enough ⊢
          refine ((each item List.mem_cons_self).takes (by omega)).bind ?_
          exact bind_skipSpaces rfl (.bind_next (.pure [item]))
      | cons next rest =>
          rw [renderItems, renderItems, listed_cons_cons, ← renderItems,
            List.length_append, List.length_cons] at enough
          rw [renderItems, renderItems, listed_cons_cons, ← renderItems,
            List.append_assoc]
          refine ((each item List.mem_cons_self).takes (by omega)).bind ?_
          refine bind_skipSpaces rfl (.bind_next ?_)
          exact (ih (List.cons_ne_nil _ _)
            (fun other member => each other (List.mem_cons_of_mem _ member))
            bound (by omega)).map (item :: ·)

/-- An entry is read up to the comma or the brace behind it. -/
theorem takes_entry {β : Type} {depth bound : Nat} {key : String}
    {value : Document} {next : String → Document → Text.Scan β} {char : Char}
    {back : List Char} {result : β} (read : ReadsBack depth value)
    (enough : (quoted key ++ ":" ++ value.render).toList.length < bound)
    (solid : isSpace char = false)
    (goes : Takes (next key value) (char :: back) result) :
    Takes (do
        skipSpaces
        let key ← scanString bound
        skipSpaces
        Text.Scan.exactly ':'
        let value ← scanDocument bound depth
        skipSpaces
        next key value)
      ((quoted key ++ ":" ++ value.render).toList ++ char :: back) result := by
  have text : (quoted key ++ ":" ++ value.render).toList =
      (quoted key).toList ++ ':' :: value.render.toList := by
    simp
  rw [text, List.length_append, List.length_cons] at enough
  rw [text, List.append_assoc, toList_quoted, List.cons_append]
  refine bind_skipSpaces rfl ?_
  rw [← List.cons_append, ← toList_quoted]
  refine (takes_scanString key (by omega)).bind (bind_skipSpaces rfl ?_)
  exact .bind_exactly
    ((read.takes (by omega)).bind (bind_skipSpaces solid goes))

theorem takes_scanPairs {depth : Nat} {entries : List (String × Document)}
    (some : entries ≠ [])
    (each : ∀ entry ∈ entries, ReadsBack depth entry.2) (bound : Nat)
    (enough : (listed (renderEntries entries)).length + 1 < bound) :
    Takes (scanPairs bound depth) (listed (renderEntries entries) ++ ['\x7d'])
      entries := by
  induction entries generalizing bound with
  | nil => exact absurd rfl some
  | cons entry others ih =>
      obtain ⟨bound, rfl⟩ :=
        Nat.exists_eq_add_one.mpr (Nat.zero_lt_of_lt enough)
      obtain ⟨key, value⟩ := entry
      have read := each (key, value) List.mem_cons_self
      rw [scanPairs]
      cases others with
      | nil =>
          rw [renderEntries, renderEntries, listed_singleton] at enough ⊢
          exact takes_entry read (by omega) rfl
            (.bind_next (.pure [(key, value)]))
      | cons next rest =>
          obtain ⟨other, held⟩ := next
          rw [renderEntries, renderEntries, listed_cons_cons, ← renderEntries,
            List.length_append, List.length_cons] at enough
          rw [renderEntries, renderEntries, listed_cons_cons, ← renderEntries,
            List.append_assoc]
          refine takes_entry read (by omega) rfl (.bind_next ?_)
          exact (ih (List.cons_ne_nil _ _)
            (fun other member => each other (List.mem_cons_of_mem _ member))
            bound (by omega)).map ((key, value) :: ·)

/-- A document without numbers is taken as it was written. -/
theorem readsBack_of_plain {depth : Nat} {document : Document}
    (plain : document.Plain depth) : ReadsBack depth document := by
  induction plain with
  | null =>
      intro bound enough
      rw [scanDocument]
      exact bind_skipSpaces rfl (.bind_peek ((Text.Scan.takes_word _).map _))
  | bool value =>
      intro bound enough
      rw [scanDocument]
      cases value <;>
        exact bind_skipSpaces rfl
          (.bind_peek ((Text.Scan.takes_word _).map _))
  | text value =>
      intro bound enough
      rw [render] at enough ⊢
      have taken := (takes_scanString value enough).map text
      rw [toList_quoted] at taken ⊢
      rw [scanDocument]
      exact bind_skipSpaces rfl (.bind_peek taken)
  | @list depth items each ih =>
      intro bound enough
      rw [toList_render_list] at enough ⊢
      rw [List.length_cons, List.length_append, List.length_singleton] at enough
      rw [scanDocument]
      refine bind_skipSpaces rfl (.bind_peek
        (.guarded (Nat.succ_ne_zero _) (.bind_exactly ?_)))
      cases items with
      | nil => exact bind_skipSpaces rfl (.bind_peek (.bind_exactly (.pure _)))
      | cons item rest =>
          have taken := (takes_scanItems (List.cons_ne_nil item rest) ih bound
            (by omega)).map list
          obtain ⟨char, back, text, solid, inside⟩ :=
            (each item List.mem_cons_self).exists_front
          obtain ⟨others, front⟩ := exists_listed_cons item.render
            (renderItems rest)
          rw [renderItems, front, text, List.append_assoc, List.cons_append]
            at taken ⊢
          refine bind_skipSpaces solid (.bind_peek ?_)
          split
          · next closes =>
            cases closes
            contradiction
          · exact taken
  | @object depth entries sorted each ih =>
      intro bound enough
      rw [toList_render_object] at enough ⊢
      rw [List.length_cons, List.length_append, List.length_singleton] at enough
      rw [scanDocument]
      refine bind_skipSpaces rfl (.bind_peek
        (.guarded (Nat.succ_ne_zero _) (.bind_exactly ?_)))
      cases entries with
      | nil => exact bind_skipSpaces rfl (.bind_peek (.bind_exactly (.pure _)))
      | cons entry rest =>
          have taken := (takes_scanPairs (List.cons_ne_nil entry rest) ih bound
            (by omega)).map ofPairs
          rw [ofPairs, sorted.ofPairs_eq_self] at taken
          obtain ⟨key, value⟩ := entry
          obtain ⟨others, front⟩ := exists_listed_cons
            (quoted key ++ ":" ++ value.render) (renderEntries rest)
          rw [renderEntries, front, String.toList_append, String.toList_append,
            toList_quoted, List.append_assoc, List.append_assoc,
            List.cons_append] at taken ⊢
          exact bind_skipSpaces rfl (.bind_peek taken)

/-- A document without numbers is read back from its text. -/
theorem read?_render {document : Document}
    (plain : document.Plain greatestDepth) :
    read? document.render = some document := by
  have enough : document.render.toList.length <
      2 * document.render.length + 2 := by
    rw [String.length_toList]
    omega
  have taken := (readsBack_of_plain plain).takes enough []
  rw [List.append_nil] at taken
  rw [read?, Text.Scan.readAll, Text.Scan.bind_apply, taken]
  rfl

end Json

end Document

end SqlWeave
