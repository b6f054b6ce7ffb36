import SqlWeave.Compile.Database
import SqlWeave.Dialect.Presets
import SqlWeave.Proofs.Template.Scanner

/-!
# Dotted names read back

A dotted name is written as its segments, each in quotes, with dots between
them.  A reader takes the segments off one after the other, each up to the first
closing quote that is not followed by another one.  It accepts exactly the texts
that dotted names are written as, so no two of them share a text
(`Database.path_read_back`).

This rests on the closing quote alone, which must not be the dot: else some
names do share a text (`Dialect.exists_same_text_of_dot`).
-/

namespace SqlWeave

/-! ## Quoted text -/

namespace Text.Quoted

/-- What was read stands in the text with its closing quotes doubled. -/
theorem eq_of_scan {close : Char} {text name rest : List Char}
    (found : scan close text = some (name, rest)) :
    text = double close name ++ close :: rest := by
  induction text using scan.induct close generalizing name with
  | case1 => simp [scan] at found
  | case2 =>
      simp only [scan, if_pos, Option.some.injEq, Prod.mk.injEq] at found
      obtain ⟨rfl, rfl⟩ := found
      rfl
  | case3 char differs => simp [scan, differs] at found
  | case4 tail ih =>
      simp only [scan, if_pos, Option.map_eq_some_iff] at found
      obtain ⟨⟨inner, after⟩, read, equal⟩ := found
      cases equal
      rw [double, if_pos rfl, ih read]
      rfl
  | case5 next tail differs =>
      simp only [scan, if_pos, if_neg differs, Option.some.injEq,
        Prod.mk.injEq] at found
      obtain ⟨rfl, rfl⟩ := found
      rfl
  | case6 char next tail differs ih =>
      simp only [scan, if_neg differs, Option.map_eq_some_iff] at found
      obtain ⟨⟨inner, after⟩, read, equal⟩ := found
      cases equal
      rw [double, if_neg differs, ih read]
      rfl

end Text.Quoted

/-! ## Reading dotted names -/

namespace Dialect

/-- The segments of a dotted name, which takes up the whole text. -/
def readSegments? (dialect : Dialect) : List Char → Option (List String)
  | [] => none
  | opening :: quoted =>
      if opening = dialect.openQuote then
        match _found : Text.Quoted.scan dialect.closeQuote quoted with
        | none => none
        | some (name, []) => some [String.ofList name]
        | some (name, dot :: rest) =>
            if dot = '.' then
              (readSegments? dialect rest).map (String.ofList name :: ·)
            else none
      else none
termination_by text => text.length
decreasing_by
  have shorter := Text.Quoted.length_lt_of_scan _found
  simp only [List.length_cons] at shorter ⊢
  omega

/-- The dotted name that the text writes.  The name without segments is written
as nothing. -/
def readPath? (dialect : Dialect) (text : String) : Option Path :=
  match text.toList with
  | [] => some ⟨[]⟩
  | chars => (dialect.readSegments? chars).map Path.mk

variable {dialect : Dialect} {quoted name rest : List Char}

/-! ## Steps of the reader -/

theorem readSegments?_of_end
    (found : Text.Quoted.scan dialect.closeQuote quoted = some (name, [])) :
    dialect.readSegments? (dialect.openQuote :: quoted) =
      some [String.ofList name] := by
  rw [readSegments?, if_pos rfl]
  split <;> simp_all

theorem readSegments?_of_dot
    (found : Text.Quoted.scan dialect.closeQuote quoted =
      some (name, '.' :: rest)) :
    dialect.readSegments? (dialect.openQuote :: quoted) =
      (dialect.readSegments? rest).map (String.ofList name :: ·) := by
  rw [readSegments?, if_pos rfl]
  split <;> simp_all

/-- What the reader can have met if it accepts. -/
theorem readSegments?_cases {text : List Char} {segments : List String}
    (read : dialect.readSegments? text = some segments) :
    ∃ quoted name, text = dialect.openQuote :: quoted ∧
      ((Text.Quoted.scan dialect.closeQuote quoted = some (name, []) ∧
          segments = [String.ofList name]) ∨
        ∃ rest others,
          Text.Quoted.scan dialect.closeQuote quoted =
            some (name, '.' :: rest) ∧
          dialect.readSegments? rest = some others ∧
          segments = String.ofList name :: others) := by
  cases text with
  | nil => simp [readSegments?] at read
  | cons opening quoted =>
      rw [readSegments?] at read
      split at read
      · next same =>
          subst same
          split at read
          · cases read
          · next name found =>
              cases read
              exact ⟨quoted, name, rfl, .inl ⟨found, rfl⟩⟩
          · next name dot rest found =>
              split at read
              · next same =>
                  subst same
                  obtain ⟨others, later, equal⟩ :=
                    Option.map_eq_some_iff.mp read
                  exact ⟨quoted, name, rfl,
                    .inr ⟨rest, others, found, later, equal.symm⟩⟩
              · cases read
      · cases read

/-! ## Reading what was written -/

theorem quoteChars_append (dialect : Dialect) (segment : String)
    (rest : List Char) :
    dialect.quoteChars segment ++ rest =
      dialect.openQuote ::
        (Text.Quoted.double dialect.closeQuote segment.toList ++
          dialect.closeQuote :: rest) := by
  simp [quoteChars, Text.Quoted.enclose]

theorem pathChars_singleton (dialect : Dialect) (segment : String) :
    dialect.pathChars ⟨[segment]⟩ = dialect.quoteChars segment :=
  List.intercalate_singleton

theorem pathChars_cons_cons (dialect : Dialect) (segment next : String)
    (others : List String) :
    dialect.pathChars ⟨segment :: next :: others⟩ =
      dialect.quoteChars segment ++
        '.' :: dialect.pathChars ⟨next :: others⟩ := by
  simp [pathChars, List.intercalate_cons_cons]

/-- The segments are found again if a dot does not continue a quoted name. -/
theorem readSegments?_pathChars (apart : dialect.closeQuote ≠ '.')
    {segments : List String} (named : segments ≠ []) :
    dialect.readSegments? (dialect.pathChars ⟨segments⟩) = some segments := by
  induction segments with
  | nil => exact absurd rfl named
  | cons segment others ih =>
      cases others with
      | nil =>
          have last : Text.Quoted.Separated dialect.closeQuote [] := by
            simp [Text.Quoted.Separated]
          rw [pathChars_singleton, ← List.append_nil (quoteChars _ _),
            quoteChars_append,
            readSegments?_of_end (Text.Quoted.scan_double _ _ _ last)]
          simp
      | cons next tail =>
          have dotted : Text.Quoted.Separated dialect.closeQuote
              ('.' :: dialect.pathChars ⟨next :: tail⟩) := by
            simpa [Text.Quoted.Separated] using apart.symm
          rw [pathChars_cons_cons, quoteChars_append,
            readSegments?_of_dot (Text.Quoted.scan_double _ _ _ dotted),
            ih (List.cons_ne_nil _ _)]
          simp

/-- Whatever the reader accepts was written so. -/
theorem eq_pathChars_of_readSegments? {text : List Char}
    {segments : List String}
    (read : dialect.readSegments? text = some segments) :
    segments ≠ [] ∧ text = dialect.pathChars ⟨segments⟩ := by
  induction segments generalizing text with
  | nil =>
      obtain ⟨_, _, _, ⟨_, nothing⟩ | ⟨_, _, _, _, nothing⟩⟩ :=
        readSegments?_cases read
      · cases nothing
      · cases nothing
  | cons segment others ih =>
      refine ⟨List.cons_ne_nil _ _, ?_⟩
      obtain ⟨quoted, name, rfl, ⟨found, equal⟩ | ⟨rest, _, found, later, equal⟩⟩ :=
        readSegments?_cases read
      · cases equal
        rw [pathChars_singleton, ← List.append_nil (quoteChars _ _),
          quoteChars_append, String.toList_ofList,
          Text.Quoted.eq_of_scan found]
      · cases equal
        obtain ⟨some, rfl⟩ := ih later
        cases others with
        | nil => exact absurd rfl some
        | cons next tail =>
            rw [pathChars_cons_cons, quoteChars_append, String.toList_ofList,
              Text.Quoted.eq_of_scan found]

theorem readSegments?_eq_some_iff (apart : dialect.closeQuote ≠ '.')
    {text : List Char} {segments : List String} :
    dialect.readSegments? text = some segments ↔
      segments ≠ [] ∧ text = dialect.pathChars ⟨segments⟩ := by
  constructor
  · exact eq_pathChars_of_readSegments?
  · rintro ⟨named, rfl⟩
    exact readSegments?_pathChars apart named

/-- Only the name without segments is written as nothing. -/
theorem pathChars_eq_nil_iff {path : Path} :
    dialect.pathChars path = [] ↔ path = ⟨[]⟩ := by
  match path with
  | ⟨[]⟩ => exact iff_of_true rfl rfl
  | ⟨[segment]⟩ =>
      simp [pathChars_singleton, quoteChars, Text.Quoted.enclose]
  | ⟨segment :: next :: others⟩ =>
      simp [pathChars_cons_cons, quoteChars_append]

/-- The reader accepts exactly what dotted names are written as. -/
theorem readPath?_eq_some_iff (apart : dialect.closeQuote ≠ '.')
    {text : String} {path : Path} :
    dialect.readPath? text = some path ↔ text = dialect.quotePath path := by
  have written : text = dialect.quotePath path ↔
      text.toList = dialect.pathChars path := by
    rw [← String.toList_inj, quotePath, String.toList_ofList]
  rw [written, readPath?]
  cases chars : text.toList with
  | nil =>
      rw [eq_comm (b := dialect.pathChars path), pathChars_eq_nil_iff,
        Option.some_inj, eq_comm]
  | cons char rest =>
      simp only [Option.map_eq_some_iff, readSegments?_eq_some_iff apart]
      constructor
      · rintro ⟨segments, ⟨_, same⟩, rfl⟩
        exact same
      · intro same
        refine ⟨path.segments, ⟨?_, same⟩, rfl⟩
        intro none
        have nothing : dialect.pathChars path = [] :=
          pathChars_eq_nil_iff.mpr (congrArg Path.mk none)
        rw [nothing] at same
        cases same

/-- If the closing quote is the dot then two dotted names have one text. -/
theorem exists_same_text_of_dot (dot : dialect.closeQuote = '.') :
    ∃ first second : Path, first ≠ second ∧
      dialect.quotePath first = dialect.quotePath second := by
  by_cases same : dialect.openQuote = '.'
  · refine ⟨⟨["", "", ""]⟩, ⟨["..."]⟩, by decide, ?_⟩
    simp [quotePath, pathChars, quoteChars, Text.Quoted.enclose,
      Text.Quoted.double, dot, same]
  · refine ⟨⟨["", ""]⟩, ⟨[String.ofList ['.', dialect.openQuote]]⟩, ?_, ?_⟩
    · simp
    · simp [quotePath, pathChars, quoteChars, Text.Quoted.enclose,
        Text.Quoted.double, dot, same]

end Dialect

/-- Unless names are closed by the dot, a dotted name is compiled to a text that
no other one has, and exactly from that text the reader gets it back. -/
theorem Database.path_read_back (database : Database)
    (apart : database.dialect.closeQuote ≠ '.') :
    (∀ path, ∃ statement,
      (database.compile (.path path)).result = .ok statement ∧
        statement.template = database.dialect.quotePath path) ∧
    (∀ first second : Path,
      database.dialect.quotePath first = database.dialect.quotePath second →
        first.segments = second.segments) ∧
    ∀ text path, database.dialect.readPath? text = some path ↔
      text = database.dialect.quotePath path := by
  have reads : ∀ text path, database.dialect.readPath? text = some path ↔
      text = database.dialect.quotePath path :=
    fun _ _ => Dialect.readPath?_eq_some_iff apart
  refine ⟨?_, ?_, reads⟩
  · intro path
    refine ⟨⟨database.dialect, [.name path]⟩, rfl, ?_⟩
    simp [Statement.template, Fragment.templateChars, Fragment.chars,
      Dialect.quotePath]
  · intro first second same
    have read := (reads _ second).mpr same
    rw [(reads _ first).mpr rfl] at read
    exact congrArg Path.segments (Option.some.inj read)

/-- Names in `.` and `]`. -/
def Dialect.dotted : Dialect :=
  { generic with openQuote := '.', closeQuote := ']' }

theorem Database.path_read_back_dotted :
    Dialect.dotted.closeQuote ≠ '.' ∧
      Dialect.dotted.readPath? ".a.b]..]..x]]y]" =
        some ⟨["a.b", "", "x]y"]⟩ := by
  have apart : Dialect.dotted.closeQuote ≠ '.' := by decide
  obtain ⟨_, _, reads⟩ := path_read_back ⟨.dotted, none⟩ apart
  exact ⟨apart, (reads _ _).mpr (by decide)⟩

end SqlWeave
