import SqlWeave.Dialect.Presets
import SqlWeave.Proofs.Script.Layout
import SqlWeave.Proofs.Template.Scanner

/-!
# Statements read back from their text

In the text of a statement no name, placeholder or keyword runs into another
one, so a scan of the text finds the names and placeholders that were written,
whatever characters the names hold (`Database.lex_template`).
-/

namespace SqlWeave

/-! ## Lexemes of statements -/

namespace Lexeme

/-- The text of a name. -/
def name? : Lexeme → Option String
  | name text => some text
  | _ => none

/-- The text of a placeholder. -/
def placeholder? : Lexeme → Option String
  | placeholder text => some text
  | _ => none

/-- The text with the placeholders replaced in their order. -/
def fill (dialect : Dialect) : List String → List Lexeme → List Char
  | _, [] => []
  | texts, name text :: rest =>
      dialect.quoteChars text ++ fill dialect texts rest
  | texts, char other :: rest => other :: fill dialect texts rest
  | [], placeholder _ :: rest => fill dialect [] rest
  | text :: texts, placeholder _ :: rest =>
      text.toList ++ fill dialect texts rest

/-- Names with dots between them. -/
def dotted : List String → List Lexeme
  | [] => []
  | [segment] => [.name segment]
  | segment :: rest => .name segment :: .char '.' :: dotted rest

end Lexeme

namespace Fragment

/-- The segments of a name. -/
def segments : Fragment → List String
  | name path => path.segments
  | _ => []

/-- The lexemes of a fragment; `index` is the number that it gets if it is a
parameter. -/
def lexemes (dialect : Dialect) (index : Nat) : Fragment → List Lexeme
  | keyword word => word.render.toList.map .char
  | name path => Lexeme.dotted path.segments
  | parameter _ => [.placeholder (dialect.placeholder index)]

/-- The lexemes of fragments that follow `before` parameters. -/
def allLexemes (dialect : Dialect) (before : Nat) :
    List Fragment → List Lexeme
  | [] => []
  | fragment :: rest =>
      fragment.lexemes dialect (before + 1) ++
        allLexemes dialect
          (if fragment.value?.isSome then before + 1 else before) rest

end Fragment

/-- The names, the placeholders and the characters between them that a statement
was written with. -/
def Statement.lexemes (statement : Statement) : List Lexeme :=
  Fragment.allLexemes statement.dialect 0 statement.fragments

namespace Lexeme

theorem filterMap_name?_dotted (segments : List String) :
    (dotted segments).filterMap name? = segments := by
  induction segments using dotted.induct with
  | case1 => rfl
  | case2 segment => rfl
  | case3 segment rest more ih =>
      rw [dotted.eq_3 segment rest more]
      simp [List.filterMap_cons, name?, ih]

theorem filterMap_placeholder?_dotted (segments : List String) :
    (dotted segments).filterMap placeholder? = [] := by
  induction segments using dotted.induct with
  | case1 => rfl
  | case2 segment => rfl
  | case3 segment rest more ih =>
      rw [dotted.eq_3 segment rest more]
      simpa [List.filterMap_cons, placeholder?] using ih

theorem filterMap_name?_chars (chars : List Char) :
    (chars.map Lexeme.char).filterMap name? = [] := by
  simp [List.filterMap_map, Function.comp_def, name?]

theorem filterMap_placeholder?_chars (chars : List Char) :
    (chars.map Lexeme.char).filterMap placeholder? = [] := by
  simp [List.filterMap_map, Function.comp_def, placeholder?]

theorem fill_chars_append (dialect : Dialect) (texts : List String)
    (chars : List Char) (rest : List Lexeme) :
    fill dialect texts (chars.map Lexeme.char ++ rest) =
      chars ++ fill dialect texts rest := by
  induction chars with
  | nil => rfl
  | cons char others ih => simp [fill, ih]

theorem fill_dotted_append (dialect : Dialect) (texts : List String)
    (segments : List String) (rest : List Lexeme) :
    fill dialect texts (dotted segments ++ rest) =
      ['.'].intercalate (segments.map dialect.quoteChars) ++
        fill dialect texts rest := by
  induction segments using dotted.induct with
  | case1 => rfl
  | case2 segment => simp [dotted, fill]
  | case3 segment others more ih =>
      rw [dotted.eq_3 segment others more]
      cases others with
      | nil => exact absurd rfl more
      | cons next tail => simp [fill, ih, List.intercalate_cons_cons]

end Lexeme

namespace Fragment

variable (dialect : Dialect)

/-- The names among the lexemes are the segments that were written. -/
theorem filterMap_name?_allLexemes (before : Nat) (fragments : List Fragment) :
    (allLexemes dialect before fragments).filterMap Lexeme.name? =
      fragments.flatMap segments := by
  induction fragments generalizing before with
  | nil => rfl
  | cons fragment rest ih =>
      rw [allLexemes, List.filterMap_append, ih, List.flatMap_cons]
      congr 1
      cases fragment with
      | keyword word => exact Lexeme.filterMap_name?_chars _
      | name path => exact Lexeme.filterMap_name?_dotted _
      | parameter value => rfl

/-- The placeholders among the lexemes are numbered on from those before. -/
theorem filterMap_placeholder?_allLexemes (before : Nat)
    (fragments : List Fragment) :
    (allLexemes dialect before fragments).filterMap Lexeme.placeholder? =
      (List.range' (before + 1)
        (fragments.filterMap Fragment.value?).length).map
          dialect.placeholder := by
  induction fragments generalizing before with
  | nil => rfl
  | cons fragment rest ih =>
      rw [allLexemes, List.filterMap_append, ih]
      cases fragment with
      | keyword word =>
          rw [lexemes, Lexeme.filterMap_placeholder?_chars]
          rfl
      | name path =>
          rw [lexemes, Lexeme.filterMap_placeholder?_dotted]
          rfl
      | parameter value => rfl

/-- Each placeholder stands for the value that was bound with it. -/
theorem fill_allLexemes (before : Nat) (fragments : List Fragment) :
    Lexeme.fill dialect
        ((fragments.filterMap Fragment.value?).map Value.literal)
        (allLexemes dialect before fragments) =
      fragments.flatMap (inlinedChars dialect) := by
  induction fragments generalizing before with
  | nil => rfl
  | cons fragment rest ih =>
      rw [allLexemes, List.flatMap_cons]
      cases fragment with
      | keyword word =>
          rw [lexemes, Lexeme.fill_chars_append]
          exact congrArg (_ ++ ·) (ih _)
      | name path =>
          rw [lexemes, Lexeme.fill_dotted_append]
          exact congrArg (_ ++ ·) (ih _)
      | parameter value => exact congrArg (_ ++ ·) (ih _)

end Fragment

/-! ## Dialects whose statements can be read back -/

/-- A scan reads the keyword as its characters and, the constant filter apart,
ends whatever stands in front of it. -/
def Dialect.separates (dialect : Dialect) (word : Keyword) : Bool :=
  dialect.isQuiet word.render.toList &&
    (word == .alwaysFalse ||
      !word.render.toList.isEmpty && dialect.isBoundary word.render.toList)

/-- Nothing else that the dialect writes looks like a name or a placeholder. -/
structure Dialect.Readable (dialect : Dialect) : Prop where
  spells : dialect.Spells fun word => dialect.separates word = true
  opening : dialect.separates .openParen = true
  closing : dialect.separates .closeParen = true
  apart : dialect.SpellsApart
  dot : (dialect.isQuiet ['.'] && dialect.isBoundary ['.']) = true
  begins : ∀ char ∈ ['?', '$', '%'], char ≠ dialect.openQuote

theorem Dialect.readable_of_mem_presets {dialect : Dialect}
    (preset : dialect ∈ presets) : dialect.Readable := by
  simp only [presets, List.mem_cons, List.not_mem_nil, or_false] at preset
  have operator (word : Operator) :
      dialect.separates (dialect.operatorKeyword word) = true ∧
        dialect.operatorKeyword word ≠ .alwaysFalse := by
    rcases preset with rfl | rfl | rfl | rfl <;>
      rcases word with word | word <;> cases word <;> decide
  refine ⟨⟨fun word => (operator word).1, ?_⟩, ?_, ?_,
    fun word => (operator word).2, ?_, List.forall_mem_cons.mpr ⟨?_,
      List.forall_mem_cons.mpr ⟨?_, List.forall_mem_singleton.mpr ?_⟩⟩⟩
  all_goals rcases preset with rfl | rfl | rfl | rfl <;> decide

/-! ## Scanning what was written -/

variable {dialect : Dialect}

theorem Dialect.lex_keyword_append {word : Keyword}
    (separates : dialect.separates word = true) (rest : List Char) :
    dialect.lex (word.render.toList ++ rest) =
      (dialect.lex rest).map (word.render.toList.map Lexeme.char ++ ·) := by
  rw [Dialect.separates, Bool.and_eq_true] at separates
  exact lex_append_of_isQuiet separates.1 rest

/-- A keyword ends what stands in front of it, unless it is the constant
filter. -/
theorem Dialect.isBoundary_keyword_append {word : Keyword}
    (separates : dialect.separates word = true) (other : word ≠ .alwaysFalse)
    (rest : List Char) :
    dialect.isBoundary (word.render.toList ++ rest) = true := by
  rw [Dialect.separates, Bool.and_eq_true, Bool.or_eq_true, beq_iff_eq,
    or_iff_right other, Bool.and_eq_true] at separates
  obtain ⟨_, some, boundary⟩ := separates
  cases chars : word.render.toList with
  | nil =>
      rw [chars] at some
      cases some
  | cons char others =>
      rw [chars] at boundary
      exact boundary

theorem Dialect.Readable.lex_pathChars_append (readable : dialect.Readable)
    {segments : List String} (named : segments ≠ []) {rest : List Char}
    (boundary : dialect.isBoundary rest = true) :
    dialect.lex (dialect.pathChars ⟨segments⟩ ++ rest) =
      (dialect.lex rest).map (Lexeme.dotted segments ++ ·) := by
  unfold pathChars
  induction segments using Lexeme.dotted.induct with
  | case1 => exact absurd rfl named
  | case2 segment =>
      simpa [Lexeme.dotted] using lex_quoteChars_append segment boundary
  | case3 segment others more ih =>
      cases others with
      | nil => exact absurd rfl more
      | cons next tail =>
          obtain ⟨quiet, dotEnds⟩ := Bool.and_eq_true_iff.mp readable.dot
          have ends (tail : List Char) :
              dialect.isBoundary (['.'] ++ tail) = true := dotEnds
          have later := ih (List.cons_ne_nil _ _)
          rw [List.map_cons, List.map_cons, List.intercalate_cons_cons,
            List.append_assoc, List.append_assoc,
            lex_quoteChars_append segment (ends _),
            lex_append_of_isQuiet quiet, ← List.map_cons, later]
          simp [Lexeme.dotted, Function.comp_def]

namespace Fragment

/-- What stands behind a solid fragment ends it. -/
theorem isBoundary_templateChars {fragment : Fragment}
    {rest : List Fragment} (spread : Spread (fragment :: rest))
    (solid : fragment.IsSolid)
    (words : ∀ word, .keyword word ∈ rest → dialect.separates word = true)
    (before : Nat) :
    dialect.isBoundary (templateChars dialect before rest) = true := by
  cases rest with
  | nil => rfl
  | cons next others =>
      have meets := (List.isChain_cons_cons.mp spread.apart).1
      cases next with
      | keyword word =>
          apply Dialect.isBoundary_keyword_append
          · exact words word List.mem_cons_self
          · exact fun equal => meets ⟨solid, equal⟩
      | name path => exact absurd ⟨solid, trivial⟩ meets
      | parameter value => exact absurd ⟨solid, trivial⟩ meets

theorem Spread.tail {fragment : Fragment} {rest : List Fragment}
    (spread : Spread (fragment :: rest)) : Spread rest :=
  ⟨spread.apart.tail, fun path member =>
    spread.named path (List.mem_cons_of_mem _ member)⟩

/-- A scan of what fragments write finds their lexemes. -/
theorem lex_templateChars (readable : dialect.Readable)
    {fragments : List Fragment} (spread : Spread fragments)
    (words : ∀ word, .keyword word ∈ fragments →
      dialect.separates word = true) (before : Nat) :
    dialect.lex (templateChars dialect before fragments) =
      some (allLexemes dialect before fragments) := by
  induction fragments generalizing before with
  | nil => exact dialect.lex_nil
  | cons fragment rest ih =>
      have others : ∀ word, .keyword word ∈ rest →
          dialect.separates word = true :=
        fun word member => words word (List.mem_cons_of_mem _ member)
      have later := ih spread.tail others
      have ends (solid : fragment.IsSolid) :=
        isBoundary_templateChars spread solid others
      rw [templateChars, allLexemes]
      cases fragment with
      | keyword word =>
          rw [chars, Dialect.lex_keyword_append (words word List.mem_cons_self),
            later]
          rfl
      | name path =>
          rw [chars, readable.lex_pathChars_append
            (spread.named path List.mem_cons_self) (ends trivial _), later]
          rfl
      | parameter value =>
          rw [chars, dialect.lex_placeholder_append _ readable.begins
            (ends trivial _), later]
          rfl

end Fragment

/-- A statement of a dialect that comes with the library is read back from its
text: a scan finds the segments of its names as they were given, and between
them one placeholder for each value.  The placeholders stand for the values in
their order. -/
theorem Database.lex_template (database : Database)
    (preset : database.dialect ∈ Dialect.presets) (operand : Operand)
    (statement : Statement)
    (compiled : (database.compile operand.node).result = .ok statement) :
    database.dialect.lex statement.template.toList =
        some statement.lexemes ∧
      statement.lexemes.filterMap Lexeme.name? =
        statement.fragments.flatMap Fragment.segments ∧
      statement.lexemes.filterMap Lexeme.placeholder? =
        (List.range' 1 statement.values.length).map
          database.dialect.placeholder ∧
      String.ofList (Lexeme.fill database.dialect
        (statement.values.map Value.literal) statement.lexemes) =
          statement.inlined := by
  obtain ⟨completes, rfl⟩ :=
    (database.compile_eq_ok_iff operand.node statement).mp compiled
  have readable := Dialect.readable_of_mem_presets preset
  have spread := operand.spread database.context readable.apart completes
  have formed : (operand.node.script database.context).Formed fun word =>
      database.dialect.separates word = true := by
    cases operand with
    | select select => exact select.script_formed database.context readable.spells
    | compound compound =>
        exact compound.script_formed database.context readable.spells
  refine ⟨?_, Fragment.filterMap_name?_allLexemes _ 0 _,
    Fragment.filterMap_placeholder?_allLexemes _ 0 _,
    congrArg String.ofList (Fragment.fill_allLexemes _ 0 _)⟩
  rw [Statement.template, String.toList_ofList]
  exact Fragment.lex_templateChars readable spread
    (fun word => formed.of_keyword_mem readable.opening readable.closing
      completes) 0

/-- `SELECT * FROM "".name WHERE constant` -/
def Select.titled (name : String) (constant : Value) : Select :=
  ⟨[], some (.source (.table ⟨⟨1⟩, some "", name, []⟩)), .value constant, [],
    none, none, false, false⟩

theorem Database.lex_template_titled :
    ∃ statement,
      (compile ⟨.postgres, none⟩ (Operand.select
        (.titled "$1\" = ?" (.int 7))).node).result = .ok statement ∧
      Dialect.postgres.lex statement.template.toList =
        some statement.lexemes ∧
      statement.lexemes.filterMap Lexeme.name? = ["", "$1\" = ?"] ∧
      statement.lexemes.filterMap Lexeme.placeholder? = ["$1"] := by
  refine ⟨_, rfl, ?_⟩
  obtain ⟨found, names, placeholders, _⟩ :=
    lex_template ⟨.postgres, none⟩ (by decide)
      (.select (.titled "$1\" = ?" (.int 7))) _ rfl
  exact ⟨found, names, placeholders⟩

end SqlWeave
