import SqlWeave.Proofs.Spacing.Edges
import SqlWeave.Proofs.Template.Readback

/-!
# Spacing of templates

The ends of fragments are those of their characters, so what holds where two
fragments fit each other holds of the text of a statement: outside names there
are no two spaces in a row, and where two fragments meet, words do not run
together (`Database.template_spaced`).
-/

namespace SqlWeave

/-! ## Characters of fragments -/

/-- The characters start and end in these ways. -/
structure Edge.Ends (front back : Edge) (chars : List Char) : Prop where
  starts : chars.head?.map ofChar = some front
  ends : chars.getLast?.map ofChar = some back

namespace Edge.Ends

variable {front back left right : Edge} {first second chars : List Char}

theorem append (start : Ends front left first) (rest : Ends right back second) :
    Ends front back (first ++ second) := by
  constructor
  · cases first with
    | nil => cases start.starts
    | cons char others => exact start.starts
  · cases second using List.reverseRecOn with
    | nil => cases rest.ends
    | append_singleton others char =>
        have ends := rest.ends
        rw [List.getLast?_concat] at ends
        rw [← List.append_assoc, List.getLast?_concat]
        exact ends

theorem ne_nil (ends : Ends front back chars) : chars ≠ [] := by
  rintro rfl
  cases ends.starts

/-- Characters that are not empty start and end in some way. -/
theorem of_ne_nil (some : chars ≠ []) :
    Ends ((chars.head?.map ofChar).getD .space)
      ((chars.getLast?.map ofChar).getD .space) chars := by
  rw [List.head?_eq_some_head some, List.getLast?_eq_some_getLast some]
  exact ⟨by rw [List.head?_eq_some_head some]; rfl,
    by rw [List.getLast?_eq_some_getLast some]; rfl⟩

theorem of_forall (some : chars ≠ [])
    (each : ∀ char ∈ chars, ofChar char = front) : Ends front front chars := by
  constructor
  · rw [List.head?_eq_some_head some, Option.map_some,
      each _ (List.head_mem some)]
  · rw [List.getLast?_eq_some_getLast some, Option.map_some,
      each _ (List.getLast_mem some)]

end Edge.Ends

/-- The quotes of the dialect are no letters, digits or spaces. -/
structure Dialect.Marks (dialect : Dialect) : Prop where
  opening : Edge.ofChar dialect.openQuote = .mark
  closing : Edge.ofChar dialect.closeQuote = .mark

theorem Dialect.marks_of_mem_presets {dialect : Dialect}
    (preset : dialect ∈ presets) : dialect.Marks := by
  simp only [presets, List.mem_cons, List.not_mem_nil, or_false] at preset
  rcases preset with rfl | rfl | rfl | rfl <;> exact ⟨by decide, by decide⟩

theorem Edge.ofChar_of_isWordChar {char : Char}
    (word : isWordChar char = true) : ofChar char = .word := by
  have solid : char ≠ ' ' := by
    rintro rfl
    cases word
  rw [ofChar, if_neg solid, if_pos word]

theorem Edge.ofChar_of_isDigit {char : Char} (digit : char.isDigit = true) :
    ofChar char = .word :=
  ofChar_of_isWordChar (by simp [isWordChar, Char.isAlphanum, digit])

namespace Dialect

variable {dialect : Dialect}

theorem Marks.quoteChars_ends (marks : dialect.Marks) (name : String) :
    Edge.Ends .mark .mark (dialect.quoteChars name) := by
  constructor
  · exact congrArg some marks.opening
  · rw [quoteChars, Text.Quoted.enclose, ← List.cons_append,
      List.getLast?_concat]
    exact congrArg some marks.closing

theorem Marks.pathChars_ends (marks : dialect.Marks) {segments : List String}
    (named : segments ≠ []) :
    Edge.Ends .mark .mark (dialect.pathChars ⟨segments⟩) := by
  unfold pathChars
  induction segments with
  | nil => exact absurd rfl named
  | cons segment rest ih =>
      have first := marks.quoteChars_ends segment
      cases rest with
      | nil => simpa using first
      | cons next others =>
          have dot : Edge.Ends .mark .mark ['.'] := ⟨by decide, by decide⟩
          rw [List.map_cons, List.map_cons, List.intercalate_cons_cons,
            ← List.map_cons, List.append_assoc]
          exact first.append (dot.append (ih (List.cons_ne_nil _ _)))

theorem placeholder_ends (dialect : Dialect) (index : Nat) :
    Edge.Ends .word .word (dialect.placeholder index).toList := by
  unfold placeholder
  cases dialect.placeholders with
  | questionMark => exact .of_forall (by simp) (by simp; decide)
  | format => exact .of_forall (by simp) (by simp; decide)
  | numbered =>
      have digits : Edge.Ends .word .word (Nat.toDigits 10 index) :=
        .of_forall Nat.toDigits_ne_nil fun char member =>
          Edge.ofChar_of_isDigit
            (Nat.isDigit_of_mem_toDigits (by decide) (by decide) member)
      have dollar : Edge.Ends .word .word ['$'] := ⟨by decide, by decide⟩
      simp only [Nat.toString_eq_ofList_toDigits, String.toList_append,
        String.toList_ofList]
      exact dollar.append digits

end Dialect

namespace Fragment

variable {dialect : Dialect} {front back : Edge} {fragments : List Fragment}

/-- The characters of a fragment start and end as the fragment does. -/
theorem chars_ends (marks : dialect.Marks) {fragment : Fragment}
    (tidy : fragment.Tidy) (index : Nat) :
    Edge.Ends fragment.front fragment.back (fragment.chars dialect index) := by
  cases fragment with
  | keyword word =>
      obtain ⟨some, _⟩ := tidy
      exact .of_ne_nil some
  | name path => exact marks.pathChars_ends tidy
  | parameter value => exact dialect.placeholder_ends index

/-- The characters of each fragment; `before` parameters come before them. -/
def texts (dialect : Dialect) (before : Nat) :
    List Fragment → List (List Char)
  | [] => []
  | fragment :: rest =>
      fragment.chars dialect (before + 1) ::
        texts dialect
          (if fragment.value?.isSome then before + 1 else before) rest

theorem flatten_texts (dialect : Dialect) (before : Nat)
    (fragments : List Fragment) :
    (texts dialect before fragments).flatten =
      templateChars dialect before fragments := by
  induction fragments generalizing before with
  | nil => rfl
  | cons fragment rest ih => rw [texts, List.flatten_cons, ih, templateChars]

/-- Where two texts meet, their characters do not run together. -/
def Meet (first second : List Char) : Prop :=
  ∀ last ∈ first.getLast?, ∀ next ∈ second.head?,
    (Edge.ofChar last).Fits (Edge.ofChar next)

theorem meet_of_ends {left right : Edge} {first second : List Char}
    (start : Edge.Ends front left first) (fits : left.Fits right)
    (rest : Edge.Ends right back second) : Meet first second := by
  intro last ends next starts
  have lastEdge := start.ends
  have nextEdge := rest.starts
  rw [show first.getLast? = some last from ends] at lastEdge
  rw [show second.head? = some next from starts] at nextEdge
  rwa [Option.some.inj lastEdge, Option.some.inj nextEdge]

namespace Run

theorem texts_meet (marks : dialect.Marks)
    (run : Run front back fragments) (before : Nat) :
    (texts dialect before fragments).IsChain Meet ∧
      ∀ text ∈ (texts dialect before fragments).head?,
        ∃ last, Edge.Ends front last text := by
  induction run generalizing before with
  | single fragment tidy =>
      refine ⟨.singleton _, ?_⟩
      rintro text ⟨⟩
      exact ⟨_, chars_ends marks tidy _⟩
  | cons fragment tidy fits rest ih =>
      rw [texts]
      obtain ⟨meet, first⟩ := ih
        (if fragment.value?.isSome then before + 1 else before)
      have front := chars_ends marks tidy (before + 1)
      refine ⟨meet.cons ?_, ?_⟩
      · intro text starts
        obtain ⟨last, ends⟩ := first text starts
        exact meet_of_ends front fits ends
      · rintro text ⟨⟩
        exact ⟨_, front⟩

theorem texts_ne_nil (marks : dialect.Marks)
    (run : Run front back fragments) (before : Nat) :
    ∀ text ∈ texts dialect before fragments, text ≠ [] := by
  induction run generalizing before with
  | single fragment tidy =>
      rw [texts, texts, List.forall_mem_singleton]
      exact (chars_ends marks tidy _).ne_nil
  | cons fragment tidy fits rest ih =>
      rw [texts, List.forall_mem_cons]
      exact ⟨(chars_ends marks tidy _).ne_nil, ih _⟩

theorem templateChars_ends (marks : dialect.Marks)
    (run : Run front back fragments) (before : Nat) :
    Edge.Ends front back (templateChars dialect before fragments) := by
  induction run generalizing before with
  | single fragment tidy =>
      rw [templateChars, templateChars, List.append_nil]
      exact chars_ends marks tidy _
  | cons fragment tidy fits rest ih =>
      rw [templateChars]
      exact (chars_ends marks tidy _).append (ih _)

end Run

end Fragment

/-! ## Lexemes of fragments -/

namespace Lexeme

/-- The lexemes are no two spaces. -/
def Apart (first second : Lexeme) : Prop :=
  ¬ (first = .char ' ' ∧ second = .char ' ')

/-- There are no two spaces in a row, and one stands at the start or at the end
only if this is how the lexemes start or end. -/
structure Spaced (front back : Edge) (lexemes : List Lexeme) : Prop where
  apart : lexemes.IsChain Apart
  starts : ∃ first, lexemes.head? = some first ∧
    (first = .char ' ' → front = .space)
  ends : ∃ last, lexemes.getLast? = some last ∧
    (last = .char ' ' → back = .space)

namespace Spaced

variable {front back left right : Edge} {first second lexemes : List Lexeme}

theorem append (start : Spaced front left first) (fits : left.Fits right)
    (rest : Spaced right back second) :
    Spaced front back (first ++ second) := by
  obtain ⟨head, heads, front⟩ := start.starts
  obtain ⟨last, lasts, left⟩ := start.ends
  obtain ⟨next, nexts, right⟩ := rest.starts
  obtain ⟨final, finals, back⟩ := rest.ends
  refine ⟨start.apart.append rest.apart ?_, ?_, ?_⟩
  · intro one ends other begins both
    cases lasts.symm.trans ends
    cases nexts.symm.trans begins
    have space := left both.1
    have mark := fits (space.trans (right both.2).symm)
    cases space.symm.trans mark
  · exact ⟨head, by simp [heads], front⟩
  · exact ⟨final, by simp [finals], back⟩

/-- Without spaces nothing has to be kept apart. -/
theorem of_forall_ne (some : lexemes ≠ [])
    (each : ∀ lexeme ∈ lexemes, lexeme ≠ .char ' ') :
    Spaced front back lexemes := by
  refine ⟨?_, ⟨_, List.head?_eq_some_head some, ?_⟩,
    ⟨_, List.getLast?_eq_some_getLast some, ?_⟩⟩
  · have all := List.pairwise_of_forall_mem_list fun first member second _
      (both : first = .char ' ' ∧ second = .char ' ') =>
        each first member both.1
    exact all.isChain
  · exact fun space => absurd space (each _ (List.head_mem some))
  · exact fun space => absurd space (each _ (List.getLast_mem some))

/-- Characters that are written as they are keep their spaces. -/
theorem of_chars {chars : List Char} (some : chars ≠ [])
    (apart : chars.IsChain fun first second =>
      ¬ (first = ' ' ∧ second = ' '))
    (ends : Edge.Ends front back chars) :
    Spaced front back (chars.map Lexeme.char) := by
  refine ⟨?_, ?_, ?_⟩
  · rw [List.isChain_map]
    refine apart.imp fun first second differ both => differ ?_
    exact ⟨Lexeme.char.inj both.1, Lexeme.char.inj both.2⟩
  · have starts := ends.starts
    rw [List.head?_eq_some_head some] at starts
    refine ⟨.char (chars.head some), ?_, ?_⟩
    · rw [List.head?_map, List.head?_eq_some_head some, Option.map_some]
    · intro space
      rw [Lexeme.char.inj space] at starts
      exact (Option.some.inj starts).symm
  · have ends := ends.ends
    rw [List.getLast?_eq_some_getLast some] at ends
    refine ⟨.char (chars.getLast some), ?_, ?_⟩
    · rw [List.getLast?_map, List.getLast?_eq_some_getLast some,
        Option.map_some]
    · intro space
      rw [Lexeme.char.inj space] at ends
      exact (Option.some.inj ends).symm

end Spaced

theorem dotted_ne {segments : List String} :
    ∀ lexeme ∈ dotted segments, lexeme ≠ .char ' ' := by
  induction segments using dotted.induct with
  | case1 => simp [dotted]
  | case2 segment => simp [dotted]
  | case3 segment rest more ih =>
      rw [dotted.eq_3 segment rest more]
      simpa using ih

theorem dotted_ne_nil {segments : List String} (some : segments ≠ []) :
    dotted segments ≠ [] := by
  cases segments with
  | nil => exact absurd rfl some
  | cons segment rest => cases rest <;> simp [dotted]

end Lexeme

namespace Fragment

variable {dialect : Dialect} {front back : Edge} {fragments : List Fragment}

theorem lexemes_spaced {fragment : Fragment} (tidy : fragment.Tidy)
    (index : Nat) :
    Lexeme.Spaced fragment.front fragment.back
      (fragment.lexemes dialect index) := by
  cases fragment with
  | keyword word => exact .of_chars tidy.1 tidy.2 (.of_ne_nil tidy.1)
  | name path =>
      exact .of_forall_ne (Lexeme.dotted_ne_nil tidy) Lexeme.dotted_ne
  | parameter value =>
      exact .of_forall_ne (by simp [lexemes]) (by simp [lexemes])

theorem Run.allLexemes_spaced (run : Run front back fragments)
    (before : Nat) :
    Lexeme.Spaced front back (allLexemes dialect before fragments) := by
  induction run generalizing before with
  | single fragment tidy =>
      rw [allLexemes, allLexemes, List.append_nil]
      exact lexemes_spaced tidy _
  | cons fragment tidy fits rest ih =>
      rw [allLexemes]
      exact (lexemes_spaced tidy _).append fits (ih _)

end Fragment

/-! ## Statements -/

/-- The characters of each fragment of the statement. -/
def Statement.texts (statement : Statement) : List (List Char) :=
  Fragment.texts statement.dialect 0 statement.fragments

/-- A scan of the text of a statement finds the lexemes of its fragments. -/
theorem Operand.lex_templateChars (context : Context)
    (readable : context.dialect.Readable) (operand : Operand)
    (completes : (operand.node.script context).Completes) :
    context.dialect.lex (Fragment.templateChars context.dialect 0
        (operand.node.script context).fragments) =
      some (Fragment.allLexemes context.dialect 0
        (operand.node.script context).fragments) := by
  have formed : (operand.node.script context).Formed fun word =>
      context.dialect.separates word = true := by
    cases operand with
    | select select => exact select.script_formed context readable.spells
    | compound compound => exact compound.script_formed context readable.spells
  exact Fragment.lex_templateChars readable
    (operand.spread context readable.apart completes)
    (fun word => formed.of_keyword_mem readable.opening readable.closing
      completes) 0

/-- A statement of a dialect that comes with the library, in which each `SELECT`
selects everything or at least one column, is spaced: a scan of its text finds
no two spaces in a row outside names, the text neither starts nor ends with a
space, and where two of its fragments meet there are not two characters that
would run together. -/
theorem Database.template_spaced (database : Database)
    (preset : database.dialect ∈ Dialect.presets) (operand : Operand)
    (lists : ∀ select enclosing bare,
      ⟨.select select, enclosing, bare⟩ ∈ operand.parts → select.Lists)
    (statement : Statement)
    (compiled : (database.compile operand.node).result = .ok statement) :
    (∃ lexemes, database.dialect.lex statement.template.toList = some lexemes ∧
      lexemes.IsChain Lexeme.Apart) ∧
    (∃ first last, statement.template.toList.head? = some first ∧
      first ≠ ' ' ∧ statement.template.toList.getLast? = some last ∧
      last ≠ ' ') ∧
    statement.texts.flatten = statement.template.toList ∧
    (∀ text ∈ statement.texts, text ≠ []) ∧
    statement.texts.IsChain fun first second =>
      ∀ last ∈ first.getLast?, ∀ next ∈ second.head?,
        ¬ (isWordChar last = true ∧ isWordChar next = true) := by
  obtain ⟨completes, rfl⟩ :=
    (database.compile_eq_ok_iff operand.node statement).mp compiled
  obtain ⟨front, back, run, starts, ends⟩ :=
    operand.block database.context preset lists completes
  have marks := Dialect.marks_of_mem_presets preset
  have lexed := operand.lex_templateChars database.context
    (Dialect.readable_of_mem_presets preset) completes
  have text := run.templateChars_ends marks 0
  obtain ⟨first, heads, front⟩ := Option.map_eq_some_iff.mp text.starts
  obtain ⟨last, lasts, back⟩ := Option.map_eq_some_iff.mp text.ends
  obtain ⟨meet, _⟩ := run.texts_meet marks 0
  simp only [Statement.template, String.toList_ofList]
  refine ⟨⟨_, lexed, (run.allLexemes_spaced 0).apart⟩,
    ⟨first, last, heads, ?_, lasts, ?_⟩, Fragment.flatten_texts _ 0 _,
    run.texts_ne_nil marks 0, meet.imp ?_⟩
  · rintro rfl
    exact starts front.symm
  · rintro rfl
    exact ends back.symm
  · intro one other fits last ends next starts words
    have fits := fits last ends next starts
    rw [Edge.ofChar_of_isWordChar words.1, Edge.ofChar_of_isWordChar words.2]
      at fits
    cases fits rfl

/-- A table whose name has two spaces in a row. -/
def Table.gap : Table :=
  ⟨⟨1⟩, none, "a  b",
    [⟨"id", none, .int, true, false, false, false, none, none⟩]⟩

/-- The column of this table. -/
def Field.gap : Field := .ofIndex .gap ⟨0, Nat.one_pos⟩

/-- The column of this table, filtered, ordered and limited. -/
def Select.gaps : Select :=
  ⟨[.field .gap], none,
    .unary .not (.binary .or (.binary .eq (.unary .bitNot (.field .gap))
      (.value (.int 7))) (.binary .is (.field .gap) (.value .null))),
    [⟨.field .gap, .descending, some .last⟩], some 3, some 4, true, true⟩

theorem Database.template_spaced_gaps :
    ∃ statement,
      (compile ⟨.postgres, none⟩ (Operand.select .gaps).node).result =
        .ok statement ∧
      statement.template =
        "SELECT DISTINCT \"a  b\".\"id\" FROM \"a  b\"" ++
          " WHERE NOT (~\"a  b\".\"id\" = $1 OR \"a  b\".\"id\" IS NULL)" ++
          " ORDER BY \"a  b\".\"id\" DESC NULLS LAST LIMIT $2 OFFSET $3" ++
          " FOR UPDATE" ∧
      ∃ lexemes,
        Dialect.postgres.lex statement.template.toList = some lexemes ∧
        lexemes.IsChain Lexeme.Apart := by
  refine ⟨_, rfl, by decide +kernel, ?_⟩
  have lists : ∀ select enclosing bare,
      ⟨.select select, enclosing, bare⟩ ∈ (Operand.select .gaps).parts →
        select.Lists := by
    intro select enclosing bare member
    have itself : select = .gaps ∧ enclosing = [] ∧ bare = false := by
      simpa [Operand.parts, Select.gaps, Select.parts_eq, Select.sourceParts,
        SelectItem.firstParts, Expr.parts, OrderTerm.allParts] using member
    rw [itself.1]
    exact .inr (List.cons_ne_nil _ _)
  exact (template_spaced ⟨.postgres, none⟩ (by decide) (.select .gaps) lists _
    rfl).1

end SqlWeave
