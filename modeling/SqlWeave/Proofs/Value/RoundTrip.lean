import SqlWeave.Proofs.Calendar.Reading
import SqlWeave.Value.Wire

/-!
# Values travel without loss

Dates, times and identifiers are all texts in a document, octets and lists are
both lists; the kind that stands next to them tells how they are read.  So a
value without doubles comes back from its document if the dates, times and
identifiers in it come back from their texts (`Value.document_lossless`).  With
the standard texts all of them do, but for a leap second inside a minute
(`Value.decodeIn_standard_iff`).
-/

namespace SqlWeave

/-- If each item is read back, so is the list. -/
theorem mapM_map_eq_some {α β : Type} {write : α → β} {read : β → Option α}
    (inverse : ∀ item, read (write item) = some item) (items : List α) :
    (items.map write).mapM read = some items := by
  have unchanged : read ∘ write = fun item => pure (id item) :=
    funext inverse
  rw [List.mapM_map, unchanged, List.mapM_pure, List.map_id]
  rfl

/-! ## Identifiers -/

namespace Uuid

theorem digit?_hexDigit (digit : Fin 16) :
    digit? (Text.hexDigit digit.val) = some digit := by
  simp [digit?, Text.hexValue?_hexDigit digit.isLt]

/-- The written digits of an identifier, without hyphens. -/
def chars (uuid : Uuid) : List Char :=
  uuid.digits.map fun digit => Text.hexDigit digit.val

theorem readPlain?_chars (uuid : Uuid) : readPlain? uuid.chars = some uuid := by
  have digits : uuid.chars.mapM digit? = some uuid.digits :=
    mapM_map_eq_some digit?_hexDigit uuid.digits
  rw [readPlain?, digits]
  exact dif_pos uuid.size

/-- A list as long as the first group is cut off whole. -/
theorem cut_append {α : Type} {size : Nat} {front : List α}
    (length : front.length = size) (sizes : List Nat) (back : List α) :
    cut (size :: sizes) (front ++ back) = front :: cut sizes back := by
  subst length
  simp [cut]

theorem cut_cons {α : Type} (item : α) (sizes : List Nat) (back : List α) :
    cut (1 :: sizes) (item :: back) = [item] :: cut sizes back :=
  rfl

/-- Five groups of digits are read without their hyphens. -/
theorem readHyphenated?_groups {first second third fourth fifth : List Char}
    (eight : first.length = 8) (four : second.length = 4)
    (four' : third.length = 4) (four'' : fourth.length = 4)
    (twelve : fifth.length = 12) :
    readHyphenated? (first ++ '-' :: (second ++ '-' :: (third ++
      '-' :: (fourth ++ '-' :: fifth)))) =
      readPlain? (first ++ second ++ third ++ fourth ++ fifth) := by
  have last : cut [12] fifth = [fifth] := by simp [cut, ← twelve]
  rw [readHyphenated?, cut_append eight, cut_cons, cut_append four, cut_cons,
    cut_append four', cut_cons, cut_append four'', cut_cons, last]
  rfl

/-- A list divides after its first items. -/
theorem exists_append {α : Type} {first second : Nat} {items : List α}
    (length : items.length = first + second) :
    ∃ front back, items = front ++ back ∧ front.length = first ∧
      back.length = second := by
  refine ⟨items.take first, items.drop first, ?_, ?_, ?_⟩
  · exact (List.take_append_drop first items).symm
  · rw [List.length_take]
    omega
  · rw [List.length_drop]
    omega

/-- The digits are written in five groups with hyphens between them. -/
theorem exists_groups (uuid : Uuid) :
    ∃ first second third fourth fifth : List Char,
      (first.length = 8 ∧ second.length = 4 ∧ third.length = 4 ∧
        fourth.length = 4 ∧ fifth.length = 12) ∧
      uuid.chars = first ++ second ++ third ++ fourth ++ fifth ∧
      uuid.text.toList = first ++ '-' :: (second ++ '-' :: (third ++
        '-' :: (fourth ++ '-' :: fifth))) := by
  have size : uuid.chars.length = 8 + (4 + (4 + (4 + 12))) := by
    rw [chars, List.length_map, uuid.size]
  obtain ⟨first, rest, whole, eight, size⟩ := exists_append size
  obtain ⟨second, rest, rfl, four, size⟩ := exists_append size
  obtain ⟨third, rest, rfl, four', size⟩ := exists_append size
  obtain ⟨fourth, fifth, rfl, four'', twelve⟩ := exists_append size
  refine ⟨first, second, third, fourth, fifth,
    ⟨eight, four, four', four'', twelve⟩, by simp [whole], ?_⟩
  have parts : cut groups uuid.chars = [first, second, third, fourth, fifth] := by
    have last : cut [12] fifth = [fifth] := by simp [cut, ← twelve]
    rw [groups, whole, cut_append eight, cut_append four, cut_append four',
      cut_append four'', last]
  rw [text, ← chars, parts]
  simp [String.intercalate_cons_cons]

/-- A written identifier is read back. -/
theorem read?_text (uuid : Uuid) : read? uuid.text = some uuid := by
  obtain ⟨first, second, third, fourth, fifth,
    ⟨eight, four, four', four'', twelve⟩, chars, text⟩ := uuid.exists_groups
  have length : uuid.text.toList.length = 36 := by
    simp only [text, List.length_append, List.length_cons]
    omega
  have hyphenated := readHyphenated?_groups eight four four' four'' twelve
  rw [← text, ← chars, readPlain?_chars] at hyphenated
  rw [read?, if_neg (by omega), if_pos length, hyphenated]

end Uuid

/-! ## Values -/

namespace Value

/-- A value is a part of itself, and what is a part of an item is one of the
list. -/
inductive Part (part : Value) : Value → Prop where
  | self : Part part part
  | item {item : Value} {items : List Value} (member : item ∈ items)
      (within : Part part item) : Part part (list items)

theorem part_list_iff {part : Value} {items : List Value} :
    Part part (list items) ↔
      part = list items ∨ ∃ item ∈ items, Part part item := by
  constructor
  · intro held
    cases held with
    | self => exact .inl rfl
    | item member within => exact .inr ⟨_, member, within⟩
  · rintro (rfl | ⟨item, member, within⟩)
    · exact .self
    · exact .item member within

theorem part_scalar_iff {part value : Value}
    (scalar : ∀ items, value ≠ list items) : Part part value ↔ part = value := by
  constructor
  · intro held
    cases held with
    | self => rfl
    | item => exact absurd rfl (scalar _)
  · rintro rfl
    exact .self

/-- The value is no double and holds none, however deep. -/
def FloatFree (value : Value) : Prop :=
  ∀ double, ¬ Part (.float double) value

/-- Every date, time and identifier in the value is read back from the text that
the codecs write for it. -/
structure Codecs.DecodeIn (codecs : Codecs) (value : Value) : Prop where
  date : ∀ day, Part (.date day) value → codecs.date.Decodes day
  dateTime : ∀ timestamp, Part (.dateTime timestamp) value →
    codecs.dateTime.Decodes timestamp
  instant : ∀ timestamp, Part (.instant timestamp) value →
    codecs.instant.Decodes timestamp
  time : ∀ clock, Part (.time clock) value → codecs.time.Decodes clock
  uuid : ∀ key, Part (.uuid key) value → codecs.uuid.Decodes key

/-- The codecs read back all texts that they write. -/
structure Codecs.Lossless (codecs : Codecs) : Prop where
  date : ∀ day, codecs.date.Decodes day
  dateTime : ∀ timestamp, codecs.dateTime.Decodes timestamp
  instant : ∀ timestamp, codecs.instant.Decodes timestamp
  time : ∀ clock, codecs.time.Decodes clock
  uuid : ∀ key, codecs.uuid.Decodes key

/-- Codecs that are lossless are so in every value. -/
theorem Codecs.Lossless.decodeIn {codecs : Codecs} (lossless : codecs.Lossless)
    (value : Value) : codecs.DecodeIn value where
  date day _ := lossless.date day
  dateTime timestamp _ := lossless.dateTime timestamp
  instant timestamp _ := lossless.instant timestamp
  time clock _ := lossless.time clock
  uuid key _ := lossless.uuid key

theorem FloatFree.item {items : List Value} (free : (list items).FloatFree)
    {item : Value} (member : item ∈ items) : item.FloatFree :=
  fun double part => free double (.item member part)

theorem Codecs.DecodeIn.item {codecs : Codecs} {items : List Value}
    (decoded : codecs.DecodeIn (list items)) {item : Value}
    (member : item ∈ items) : codecs.DecodeIn item where
  date day part := decoded.date day (.item member part)
  dateTime timestamp part := decoded.dateTime timestamp (.item member part)
  instant timestamp part := decoded.instant timestamp (.item member part)
  time clock part := decoded.time clock (.item member part)
  uuid key part := decoded.uuid key (.item member part)

theorem intOf?_toInt (value : Int64) :
    intOf? (.int value.toInt) = some value := by
  rw [intOf?, if_pos ⟨value.minValue_le_toInt, value.toInt_le⟩,
    Int64.ofInt_toInt]

theorem octetOf?_toNat (octet : UInt8) :
    octetOf? (.int octet.toNat) = some octet := by
  have small := octet.toNat_lt
  have inRange : (0 : Int) ≤ octet.toNat ∧ (octet.toNat : Int) < 256 := by
    omega
  rw [octetOf?, if_pos inRange, Int.toNat_natCast]
  simp

section

variable {codecs : Codecs}

theorem ofDocument?_tagged (kind : String) (content : Document) :
    ofDocument? codecs (tagged kind content) =
      ofContent? codecs kind content := by
  simp [tagged, ofDocument?, Entries.get?, kindOf?, ofEntries?]

mutual

/-- A value without doubles is read back from its document if all texts in it
are. -/
theorem ofDocument?_toDocument :
    (value : Value) → value.FloatFree → codecs.DecodeIn value →
      ofDocument? codecs (value.toDocument codecs) = some value
  | null, _, _ => by
      simp [toDocument, ofDocument?, Entries.get?, kindOf?, ofEntries?]
  | bool value, _, _ => by
      simp [toDocument, ofDocument?_tagged, ofContent?, scalarOf?]
  | int value, _, _ => by
      simp [toDocument, ofDocument?_tagged, ofContent?, scalarOf?,
        intOf?_toInt]
  | float double, free, _ => absurd .self (free double)
  | text value, _, _ => by
      simp [toDocument, ofDocument?_tagged, ofContent?, scalarOf?]
  | bytes octets, _, _ => by
      simp [toDocument, ofDocument?_tagged, ofContent?, scalarOf?,
        mapM_map_eq_some octetOf?_toNat octets]
  | date day, _, decoded => by
      have read : _ = _ := decoded.date day .self
      simp [toDocument, ofDocument?_tagged, ofContent?, scalarOf?, read]
  | dateTime timestamp, _, decoded => by
      have read : _ = _ := decoded.dateTime timestamp .self
      simp [toDocument, ofDocument?_tagged, ofContent?, scalarOf?, read]
  | instant timestamp, _, decoded => by
      have read : _ = _ := decoded.instant timestamp .self
      simp [toDocument, ofDocument?_tagged, ofContent?, scalarOf?, read]
  | time clock, _, decoded => by
      have read : _ = _ := decoded.time clock .self
      simp [toDocument, ofDocument?_tagged, ofContent?, scalarOf?, read]
  | uuid key, _, decoded => by
      have read : _ = _ := decoded.uuid key .self
      simp [toDocument, ofDocument?_tagged, ofContent?, scalarOf?, read]
  | list items, free, decoded => by
      have read := ofDocuments?_toDocuments items (fun _ => free.item)
        (fun _ => decoded.item)
      rw [toDocument, ofDocument?_tagged, ofContent?, if_pos rfl, read]
      rfl

/-- Lists of such values are read back item by item. -/
theorem ofDocuments?_toDocuments :
    (items : List Value) → (∀ item ∈ items, item.FloatFree) →
      (∀ item ∈ items, codecs.DecodeIn item) →
        ofDocuments? codecs (toDocuments codecs items) = some items
  | [], _, _ => by
      rw [toDocuments, ofDocuments?]
  | item :: rest, free, decoded => by
      obtain ⟨freeItem, freeRest⟩ := List.forall_mem_cons.mp free
      obtain ⟨decodedItem, decodedRest⟩ := List.forall_mem_cons.mp decoded
      rw [toDocuments, ofDocuments?,
        ofDocument?_toDocument item freeItem decodedItem,
        ofDocuments?_toDocuments rest freeRest decodedRest]
      rfl

end

end

/-- Every leap second in the value stands behind the last second of a minute. -/
structure RegularTimes (value : Value) : Prop where
  dateTime : ∀ timestamp, Part (.dateTime timestamp) value →
    timestamp.time.Regular
  instant : ∀ timestamp, Part (.instant timestamp) value →
    timestamp.time.Regular
  time : ∀ clock, Part (.time clock) value → clock.Regular

/-- The standard texts of a value are read back exactly if its leap seconds are
told from other seconds. -/
theorem decodeIn_standard_iff {value : Value} :
    Codecs.standard.DecodeIn value ↔ value.RegularTimes := by
  have dateTime (timestamp : Calendar.Timestamp) :
      Codecs.standard.dateTime.Decodes timestamp ↔
        timestamp.time.Regular := by
    simp only [TextCodec.Decodes, Codecs.standard,
      Calendar.Timestamp.read?_text, Option.some_inj,
      Calendar.Timestamp.settled_eq_self_iff]
  have instant (timestamp : Calendar.Timestamp) :
      Codecs.standard.instant.Decodes timestamp ↔
        timestamp.time.Regular := by
    simp only [TextCodec.Decodes, Codecs.standard,
      Calendar.Timestamp.readOffset?_text, Option.some_inj,
      Calendar.Timestamp.settled_eq_self_iff]
  have time (clock : Calendar.Time) :
      Codecs.standard.time.Decodes clock ↔ clock.Regular := by
    simp only [TextCodec.Decodes, Codecs.standard, Calendar.Time.read?_text,
      Option.some_inj, Calendar.Time.settled_eq_self_iff]
  constructor
  · intro decoded
    exact ⟨fun _ part => (dateTime _).mp (decoded.dateTime _ part),
      fun _ part => (instant _).mp (decoded.instant _ part),
      fun _ part => (time _).mp (decoded.time _ part)⟩
  · intro regular
    refine ⟨fun day _ => ?_,
      fun _ part => (dateTime _).mpr (regular.dateTime _ part),
      fun _ part => (instant _).mpr (regular.instant _ part),
      fun _ part => (time _).mpr (regular.time _ part), fun key _ => ?_⟩
    · simp only [TextCodec.Decodes, Codecs.standard, Calendar.Date.read?_text]
    · simp only [TextCodec.Decodes, Codecs.standard, Uuid.read?_text]

/-- Whatever texts stand for dates, times and identifiers: a value without
doubles, in whatever lists it is nested, is read back from its document if those
in it are read back from their texts, as all are by codecs that are lossless
(`Codecs.Lossless.decodeIn`).  So no two such values have the same document. -/
theorem document_lossless (codecs : Codecs) :
    (∀ value : Value, value.FloatFree → codecs.DecodeIn value →
      ofDocument? codecs (value.toDocument codecs) = some value) ∧
    ∀ first second : Value, first.FloatFree → second.FloatFree →
      codecs.DecodeIn first → codecs.DecodeIn second →
        first.toDocument codecs = second.toDocument codecs →
          first = second := by
  refine ⟨ofDocument?_toDocument, ?_⟩
  intro first second free free' decoded decoded' same
  have read := ofDocument?_toDocument first free decoded
  rw [same, ofDocument?_toDocument second free' decoded'] at read
  exact (Option.some.inj read).symm

/-- The last day of the year before 0000. -/
def lastBefore : Calendar.Date := ⟨-1, 12, 31, rfl⟩

/-- Half of the leap second at midnight has gone. -/
def inLeapSecond : Calendar.Time := ⟨23, 59, 59, 1500000000, rfl⟩

/-- Lists in lists, some of them empty, around values at their limits. -/
def nested : Value :=
  .list [.list [], .list [.int Int64.minValue, .int Int64.maxValue, .null],
    .list [.list [.dateTime ⟨lastBefore, inLeapSecond⟩, .bytes [], .list []]]]

theorem document_lossless_nested :
    nested.FloatFree ∧ Codecs.standard.DecodeIn nested ∧
      ofDocument? .standard (nested.toDocument .standard) = some nested ∧
      (text lastBefore.text).toDocument .standard ≠
        (date lastBefore).toDocument .standard := by
  have free : nested.FloatFree := by
    intro double part
    simp [nested, part_list_iff, part_scalar_iff] at part
  have regular : nested.RegularTimes := by
    constructor <;> intro held part <;>
      simp [nested, part_list_iff, part_scalar_iff] at part
    subst part
    decide
  have decoded := decodeIn_standard_iff.mpr regular
  obtain ⟨lossless, injective⟩ := document_lossless .standard
  refine ⟨free, decoded, lossless nested free decoded, ?_⟩
  have regularText : (text lastBefore.text).RegularTimes := by
    constructor <;> rintro _ ⟨⟩
  have regularDate : (date lastBefore).RegularTimes := by
    constructor <;> rintro _ ⟨⟩
  intro same
  have equal := injective _ _ (by rintro _ ⟨⟩) (by rintro _ ⟨⟩)
    (decodeIn_standard_iff.mpr regularText)
    (decodeIn_standard_iff.mpr regularDate) same
  contradiction

end Value

end SqlWeave
