import SqlWeave.Dialect.Presets
import SqlWeave.Proofs.Template.Operators
import SqlWeave.Proofs.Template.Readback

/-!
# Substitution of formatted parameters

Client libraries for MySQL put the values into a statement themselves, by one
scan over its text that knows no syntax: `%s` takes the next value, `%%` stands
for a percent sign, and any other percent sign is an error.  The scan takes
exactly the values of a statement if percent signs stand in pairs in everything
but its placeholders.  Names are written as they are, and the remainder operator
is a single percent sign, so not every statement is of this kind
(`Database.substitution_takes_values_iff`).
-/

namespace SqlWeave

namespace Substitution

/-- Scan a text with values for its placeholders.  The values that were not
taken are left, unless the scan fails. -/
def scan? {α : Type} : List α → List Char → Option (List α)
  | values, [] => some values
  | values, [char] => if char = '%' then none else some values
  | values, char :: next :: rest =>
      if char = '%' then
        if next = '%' then scan? values rest
        else if next = 's' then
          match values with
          | [] => none
          | _ :: later => scan? later rest
        else none
      else scan? values (next :: rest)

/-- Percent signs stand in pairs, counted from the left. -/
def paired : List Char → Bool
  | [] => true
  | [char] => char != '%'
  | char :: next :: rest =>
      if char = '%' then next == '%' && paired rest
      else paired (next :: rest)

/-- The last character is no percent sign. -/
def Closed (text : List Char) : Prop := text.getLast? ≠ some '%'

instance (text : List Char) : Decidable (Closed text) :=
  inferInstanceAs (Decidable (_ ≠ _))

variable {α : Type}

/-- Scanning goes on behind a text that cannot end inside a placeholder. -/
theorem scan?_append (values : List α) {front : List Char}
    (closed : Closed front) (rest : List Char) :
    scan? values (front ++ rest) =
      (scan? values front).bind fun left => scan? left rest := by
  induction values, front using scan?.induct with
  | case1 values => rfl
  | case2 values => exact absurd rfl closed
  | case3 values char ordinary =>
      cases rest with
      | nil => simp [scan?, ordinary]
      | cons next others => simp [scan?, ordinary]
  | case4 values tail ih =>
      simp only [List.cons_append, scan?, if_pos]
      cases tail with
      | nil => rfl
      | cons next others => exact ih closed
  | case5 tail differs =>
      simp only [List.cons_append, scan?, if_pos, if_neg differs]
      rfl
  | case6 tail value later differs ih =>
      simp only [List.cons_append, scan?, if_pos, if_neg differs]
      cases tail with
      | nil => rfl
      | cons next others => exact ih closed
  | case7 values next tail single other =>
      simp [scan?, single, other]
  | case8 values char next tail ordinary ih =>
      simp only [List.cons_append, scan?, if_neg ordinary] at ih ⊢
      exact ih closed

/-- Percent signs in pairs take no values. -/
theorem scan?_eq_some_of_paired (values : List α) {text : List Char}
    (held : paired text = true) : scan? values text = some values := by
  induction text using paired.induct with
  | case1 => rfl
  | case2 char =>
      have ordinary : char ≠ '%' := by simpa [paired] using held
      simp [scan?, ordinary]
  | case3 next rest ih =>
      simp only [paired, if_pos, Bool.and_eq_true, beq_iff_eq] at held
      obtain ⟨rfl, pairs⟩ := held
      simpa [scan?] using ih pairs
  | case4 char next rest ordinary ih =>
      simp only [paired, if_neg ordinary] at held
      simpa [scan?, ordinary] using ih held

/-- No values are put back, and all are left only by percent signs in
pairs. -/
theorem length_le_of_scan? {values left : List α} {text : List Char}
    (found : scan? values text = some left) :
    left.length ≤ values.length ∧
      (left.length = values.length → paired text = true) := by
  induction values, text using scan?.induct with
  | case1 values => cases found; exact ⟨Nat.le_refl _, fun _ => rfl⟩
  | case2 values => simp [scan?] at found
  | case3 values char ordinary =>
      simp only [scan?, if_neg ordinary, Option.some_inj] at found
      subst found
      exact ⟨Nat.le_refl _, fun _ => by simp [paired, ordinary]⟩
  | case4 values tail ih =>
      simp only [scan?, if_pos] at found
      simpa [paired] using ih found
  | case5 tail differs => simp [scan?] at found
  | case6 tail value later differs ih =>
      simp only [scan?, if_pos, if_neg differs] at found
      have fewer := (ih found).1
      rw [List.length_cons]
      exact ⟨by omega, fun same => by omega⟩
  | case7 values next tail single other =>
      simp [scan?, single, other] at found
  | case8 values char next tail ordinary ih =>
      simp only [scan?, if_neg ordinary] at found
      simpa [paired, ordinary] using ih found

/-- So a text leaves the values alone exactly if its percent signs are in
pairs. -/
theorem scan?_nil_iff (text : List Char) :
    scan? ([] : List α) text = some [] ↔ paired text = true :=
  ⟨fun found => (length_le_of_scan? found).2 rfl, scan?_eq_some_of_paired []⟩

theorem paired_append {front : List Char} (closed : Closed front)
    (rest : List Char) :
    paired (front ++ rest) = true ↔
      paired front = true ∧ paired rest = true := by
  simp only [← scan?_nil_iff (α := Value)]
  rw [scan?_append [] closed, Option.bind_eq_some_iff]
  constructor
  · rintro ⟨left, found, others⟩
    have none : left = [] :=
      List.length_eq_zero_iff.mp (Nat.le_zero.mp (length_le_of_scan? found).1)
    subst none
    exact ⟨found, others⟩
  · rintro ⟨found, others⟩
    exact ⟨[], found, others⟩

theorem paired_cons {char : Char} (ordinary : char ≠ '%')
    (rest : List Char) : paired (char :: rest) = paired rest := by
  cases rest <;> simp [paired, ordinary]

theorem Closed.append {front rest : List Char} (closed : Closed front)
    (others : Closed rest) : Closed (front ++ rest) := by
  rw [Closed, List.getLast?_append]
  cases last : rest.getLast? with
  | none => exact closed
  | some char =>
      rw [Closed, last] at others
      exact others

/-- The quote behind a text does not touch its percent signs, and neither does
doubling the quotes in it. -/
theorem paired_double_append {close : Char} (ordinary : close ≠ '%')
    (text : List Char) :
    paired (Text.Quoted.double close text ++ [close]) = paired text := by
  have ends : (close == '%') = false := beq_false_of_ne ordinary
  induction text using paired.induct with
  | case1 => simp [Text.Quoted.double, paired, ordinary]
  | case2 char =>
      by_cases same : char = close
      · simp [Text.Quoted.double, same, paired, ordinary]
      · by_cases single : char = '%'
        · simp [Text.Quoted.double, single, ordinary.symm, paired, ends]
        · simp [Text.Quoted.double, same, single, paired, bne, ends]
  | case3 next rest ih =>
      rw [Text.Quoted.double, if_neg ordinary.symm, Text.Quoted.double]
      by_cases same : next = close
      · simp [same, paired, ends]
      · simp [same, paired, ih]
  | case4 char next rest regular ih =>
      rw [paired_cons regular, ← ih, Text.Quoted.double]
      split
      · simp only [List.cons_append, paired_cons ordinary]
      · simp only [List.cons_append, paired_cons regular]

end Substitution

open Substitution

/-! ## Dialects with formatted placeholders -/

/-- Placeholders are formatted, and quotes are no percent signs. -/
structure Dialect.Formats (dialect : Dialect) : Prop where
  placeholder : dialect.placeholders = .format
  openQuote : dialect.openQuote ≠ '%'
  closeQuote : dialect.closeQuote ≠ '%'

theorem Dialect.mysql_formats : mysql.Formats := by
  constructor <;> decide

namespace Dialect.Formats

variable {dialect : Dialect} (formats : dialect.Formats)

include formats

theorem placeholder_toList (index : Nat) :
    (dialect.placeholder index).toList = ['%', 's'] := by
  simp [Dialect.placeholder, formats.placeholder]

theorem closed_quoteChars (name : String) :
    Closed (dialect.quoteChars name) := by
  rw [Closed, quoteChars, Text.Quoted.enclose, ← List.cons_append,
    List.getLast?_concat]
  simpa using formats.closeQuote

/-- Quoting leaves percent signs as they are. -/
theorem paired_quoteChars (name : String) :
    paired (dialect.quoteChars name) = paired name.toList := by
  rw [quoteChars, Text.Quoted.enclose, paired_cons formats.openQuote]
  exact paired_double_append formats.closeQuote _

theorem closed_pathChars (path : Path) : Closed (dialect.pathChars path) := by
  obtain ⟨segments⟩ := path
  unfold pathChars
  induction segments with
  | nil => nofun
  | cons segment rest ih =>
      have head := formats.closed_quoteChars segment
      cases rest with
      | nil => simpa using head
      | cons next others =>
          rw [List.map_cons, List.map_cons, List.intercalate_cons_cons,
            ← List.map_cons]
          exact (head.append (by decide)).append ih

/-- Percent signs are in pairs in a path if they are in all its segments. -/
theorem paired_pathChars (path : Path) :
    paired (dialect.pathChars path) = true ↔
      ∀ segment ∈ path.segments, paired segment.toList = true := by
  obtain ⟨segments⟩ := path
  unfold pathChars
  induction segments with
  | nil => simp [paired]
  | cons segment rest ih =>
      rw [List.forall_mem_cons, ← ih, ← formats.paired_quoteChars segment]
      cases rest with
      | nil => simp [paired]
      | cons next others =>
          have head := formats.closed_quoteChars segment
          rw [List.map_cons, List.map_cons, List.intercalate_cons_cons,
            List.append_assoc, paired_append head]
          exact and_congr_right fun _ => by
            rw [List.singleton_append, paired_cons (by decide)]

end Dialect.Formats

namespace Fragment

/-- Percent signs stand in pairs in the fragment, unless it is a parameter. -/
def Paired : Fragment → Prop
  | keyword word => paired word.render.toList = true
  | name path => ∀ segment ∈ path.segments, paired segment.toList = true
  | parameter _ => True

theorem forall_paired_iff (fragments : List Fragment) :
    (∀ fragment ∈ fragments, fragment.Paired) ↔
      (∀ word, .keyword word ∈ fragments →
        paired word.render.toList = true) ∧
      ∀ path, .name path ∈ fragments →
        ∀ segment ∈ path.segments, paired segment.toList = true := by
  constructor
  · intro each
    exact ⟨fun word member => each _ member, fun path member => each _ member⟩
  · rintro ⟨words, names⟩ fragment member
    cases fragment with
    | keyword word => exact words word member
    | name path => exact names path member
    | parameter value => exact trivial

theorem filterMap_value?_cons (fragment : Fragment) (rest : List Fragment) :
    (fragment :: rest).filterMap value? =
      fragment.value?.toList ++ rest.filterMap value? := by
  cases fragment <;> rfl

variable {dialect : Dialect} (formats : dialect.Formats)

include formats

theorem closed_chars {fragment : Fragment}
    (words : ∀ word, fragment = .keyword word → Closed word.render.toList)
    (index : Nat) : Closed (fragment.chars dialect index) := by
  cases fragment with
  | keyword word => exact words word rfl
  | name path => exact formats.closed_pathChars path
  | parameter value =>
      rw [chars, formats.placeholder_toList]
      simp [Closed]

/-- Percent signs in pairs are passed over, and a parameter takes its value. -/
theorem scan?_chars {fragment : Fragment} (held : fragment.Paired)
    (index : Nat) (values : List Value) :
    scan? (fragment.value?.toList ++ values) (fragment.chars dialect index) =
      some values := by
  cases fragment with
  | keyword word => exact scan?_eq_some_of_paired values held
  | name path =>
      exact scan?_eq_some_of_paired values
        ((formats.paired_pathChars path).mpr held)
  | parameter value =>
      rw [chars, formats.placeholder_toList]
      rfl

/-- A fragment takes at least its own value, and more than that if percent signs
stand alone in it. -/
theorem length_le_of_scan?_chars {fragment : Fragment} {index : Nat}
    {values left : List Value}
    (found : scan? values (fragment.chars dialect index) = some left) :
    left.length + fragment.value?.toList.length ≤ values.length ∧
      (left.length + fragment.value?.toList.length = values.length →
        fragment.Paired) := by
  cases fragment with
  | keyword word => exact length_le_of_scan? found
  | name path =>
      obtain ⟨fewer, same⟩ := length_le_of_scan? found
      exact ⟨fewer, fun equal =>
        (formats.paired_pathChars path).mp (same equal)⟩
  | parameter value =>
      rw [chars, formats.placeholder_toList] at found
      cases values with
      | nil => cases found
      | cons value later =>
          cases found
          exact ⟨Nat.le_refl _, fun _ => trivial⟩

theorem scan?_templateChars {fragments : List Fragment}
    (words : ∀ word, .keyword word ∈ fragments → Closed word.render.toList)
    (held : ∀ fragment ∈ fragments, fragment.Paired) (before : Nat) :
    scan? (fragments.filterMap value?)
      (templateChars dialect before fragments) = some [] := by
  induction fragments generalizing before with
  | nil => rfl
  | cons fragment rest ih =>
      obtain ⟨first, others⟩ := List.forall_mem_cons.mp held
      have closed := closed_chars formats
        (fun word equal => words word (equal ▸ List.mem_cons_self)) (before + 1)
      rw [templateChars, scan?_append _ closed, filterMap_value?_cons,
        scan?_chars formats first]
      exact ih (fun word member => words word (List.mem_cons_of_mem _ member))
        others _

theorem length_le_of_scan?_templateChars {fragments : List Fragment}
    (words : ∀ word, .keyword word ∈ fragments → Closed word.render.toList)
    {before : Nat} {values left : List Value}
    (found : scan? values (templateChars dialect before fragments) =
      some left) :
    left.length + (fragments.filterMap value?).length ≤ values.length ∧
      (left.length + (fragments.filterMap value?).length = values.length →
        ∀ fragment ∈ fragments, fragment.Paired) := by
  induction fragments generalizing before values with
  | nil =>
      cases found
      exact ⟨Nat.le_refl _, fun _ => nofun⟩
  | cons fragment rest ih =>
      have closed := closed_chars formats
        (fun word equal => words word (equal ▸ List.mem_cons_self)) (before + 1)
      rw [templateChars, scan?_append _ closed, Option.bind_eq_some_iff] at found
      obtain ⟨between, taken, later⟩ := found
      obtain ⟨fewer, first⟩ := length_le_of_scan?_chars formats taken
      obtain ⟨fewest, others⟩ := ih
        (fun word member => words word (List.mem_cons_of_mem _ member)) later
      rw [filterMap_value?_cons, List.length_append]
      refine ⟨by omega, fun same => List.forall_mem_cons.mpr ⟨?_, ?_⟩⟩
      · exact first (by omega)
      · exact others (by omega)

/-- The scan takes exactly the values of the parameters if percent signs are in
pairs in everything else, and only then. -/
theorem scan?_templateChars_iff {fragments : List Fragment}
    (words : ∀ word, .keyword word ∈ fragments → Closed word.render.toList) :
    scan? (fragments.filterMap value?) (templateChars dialect 0 fragments) =
        some [] ↔
      ∀ fragment ∈ fragments, fragment.Paired := by
  constructor
  · intro found
    apply (length_le_of_scan?_templateChars formats words found).2
    rw [List.length_nil, Nat.zero_add]
  · intro held
    exact scan?_templateChars formats words held 0

end Fragment

/-! ## Statements for MySQL -/

namespace Dialect

/-- No keyword of a statement ends with a percent sign. -/
theorem mysql_spells_closed :
    mysql.Spells fun word => Closed word.render.toList := by
  constructor
  · intro operator
    rcases operator with operator | operator <;> cases operator <;> decide
  · decide

/-- Fixed syntax has no percent signs. -/
theorem fixed_paired :
    Keyword.Fixed fun word => paired word.render.toList = true := by
  unfold Keyword.Fixed
  decide

/-- The remainder operator is the only one that is written with a percent
sign. -/
theorem paired_mysql_operatorKeyword_iff (operator : Operator) :
    paired (mysql.operatorKeyword operator).render.toList = true ↔
      operator ≠ .binary .mod := by
  rcases operator with operator | operator <;> cases operator <;> decide

end Dialect

/-- A client library for MySQL takes exactly the values of a compiled statement
if the statement does without remainders and all percent signs in its names stand
in pairs, and only then: otherwise the scan fails or runs out of values. -/
theorem Database.substitution_takes_values_iff (database : Database)
    (mysql : database.dialect = .mysql) (operand : Operand)
    (statement : Statement)
    (compiled : (database.compile operand.node).result = .ok statement) :
    scan? statement.values statement.template.toList = some [] ↔
      .binary .mod ∉ operand.writtenOperators ∧
        ∀ path, .name path ∈ statement.fragments →
          ∀ segment ∈ path.segments, paired segment.toList = true := by
  obtain ⟨completes, rfl⟩ :=
    (database.compile_eq_ok_iff operand.node statement).mp compiled
  have context : database.context.dialect = .mysql := mysql
  have formed : (operand.node.script database.context).Formed fun word =>
      Closed word.render.toList := by
    have spells := context ▸ Dialect.mysql_spells_closed
    cases operand with
    | select select => exact select.script_formed database.context spells
    | compound compound => exact compound.script_formed database.context spells
  have words := operand.node_uses Dialect.fixed_paired database.context completes
  simp only [context, Dialect.paired_mysql_operatorKeyword_iff] at words
  rw [Statement.values, Statement.template, String.toList_ofList, mysql,
    Fragment.scan?_templateChars_iff Dialect.mysql_formats
      (fun word => formed.of_keyword_mem (by decide) (by decide) completes),
    Fragment.forall_paired_iff, words]
  simp only [ne_eq, List.forall_mem_ne']

namespace Database

theorem substitution_takes_values_iff_titled :
    ∃ statement,
      (compile ⟨.mysql, none⟩ (Operand.select
        (.titled "100%%" (.int 7))).node).result = .ok statement ∧
      scan? statement.values statement.template.toList = some [] := by
  refine ⟨_, rfl, (substitution_takes_values_iff ⟨.mysql, none⟩ rfl
    (.select (.titled "100%%" (.int 7))) _ rfl).mpr ⟨List.not_mem_nil, ?_⟩⟩
  intro path member
  have listed : Fragment.name path ∈ [Fragment.keyword .select,
      .keyword .allColumns, .keyword .fromSources, .name ⟨["", "100%%"]⟩,
      .keyword .whereFilter, .parameter (.int 7)] := member
  simp only [List.mem_cons, List.not_mem_nil, reduceCtorEq, Fragment.name.injEq,
    false_or, or_false] at listed
  rw [listed]
  decide

end Database

/-- `SELECT * FROM "".parity WHERE 7 % 2` -/
def Select.parity : Select :=
  { Select.titled "parity" .null with
    filter := .binary .mod (.value (.int 7)) (.value (.int 2)) }

/-- So the values of a statement with a remainder are not taken: behind the
operator stands a space. -/
theorem Database.not_forall_substitution_takes_values :
    ¬ ∀ (operand : Operand) (statement : Statement),
      (compile ⟨.mysql, none⟩ operand.node).result = .ok statement →
      scan? statement.values statement.template.toList = some [] := by
  intro always
  have taken := always (.select .parity) _ rfl
  rw [Statement.template, String.toList_ofList] at taken
  exact absurd (congrArg Option.isSome taken) (by decide)

end SqlWeave
