import SqlWeave.Proofs.Alias.Capture
import SqlWeave.Proofs.Defects.Detection
import SqlWeave.Query.Select

/-!
# Limits at the end of compound statements

A compound statement ends with its right operand and its own limits.  The limits
of an operand that is not parenthesised are written at the same place, so that
a limit of the operand and a limit of the combined result become the same
statement.  They are told apart exactly by parentheses around the operand, or
by a lock behind its limits (`Database.limits_confused_iff`).
-/

namespace SqlWeave

/-- The statement with these limits in the place of its own. -/
def Select.limited (select : Select) (limit offset : Option Int64) : Select :=
  { select with limit := limit, offset := offset }

/-- The statement with these limits in the place of its own. -/
def Compound.limited (compound : Compound) (limit offset : Option Int64) :
    Compound :=
  { compound with limit := limit, offset := offset }

/-! ## Limits of a `SELECT` -/

namespace Select

variable {context : Context} {select : Select} {chain : Chain}
variable {limit offset : Option Int64}

/-- The clauses of a statement up to its limits. -/
def frontScript (context : Context) (select : Select) : Script :=
  select.itemsScript context ++
  Script.keyword .fromSources ++
  select.sourceScript context ++
  filterScript select.filter.asBool? (select.filter.script context) ++
  orderingScript (OrderTerm.scripts context select.ordering)

/-- The lock of a statement, which stands behind its limits. -/
def lockScript (select : Select) : Script :=
  if select.forUpdate then Script.keyword .forUpdate else []

theorem lockScript_completes (select : Select) :
    select.lockScript.Completes := by
  unfold lockScript
  split
  · rfl
  · rfl

theorem clausesScript_limited (context : Context) (select : Select)
    (limit offset : Option Int64) :
    (select.limited limit offset).clausesScript context =
      select.frontScript context ++ limitsScript context limit offset ++
        select.lockScript := by
  cases select
  rfl

theorem limited_own (select : Select) :
    select.limited select.limit select.offset = select := by
  cases select
  rfl

theorem limited_none (unlimited : select.limit = none)
    (unskipped : select.offset = none) : select.limited none none = select := by
  have own := select.limited_own
  rw [unlimited, unskipped] at own
  exact own

theorem limited_limited (select : Select)
    (limit offset limit' offset' : Option Int64) :
    (select.limited limit offset).limited limit' offset' =
      select.limited limit' offset' := rfl

theorem scope_limited (context : Context) (select : Select)
    (limit offset : Option Int64) :
    (select.limited limit offset).scope context = select.scope context := by
  cases select
  rfl

theorem Admitted.front (admitted : Admitted context select chain) :
    (select.frontScript (select.scope context)).Completes :=
  ((Script.completes_append _ _).mp
    ((Script.completes_append _ _).mp admitted.clauses).1).1

/-- Limits are not checked, so a statement is admitted with any. -/
theorem Admitted.limited (admitted : Admitted context select chain)
    (limit offset : Option Int64) :
    Admitted context (select.limited limit offset) chain where
  lock := admitted.lock
  target := admitted.target
  items := admitted.items
  registered := admitted.registered
  clauses := by
    rw [clausesScript_limited, Script.completes_append, Script.completes_append]
    exact ⟨⟨admitted.front, limitsScript_completes _ limit offset⟩,
      select.lockScript_completes⟩

/-- Limits are written between the other clauses and the lock. -/
theorem Admitted.fragments_limited (admitted : Admitted context select chain)
    (limit offset : Option Int64) :
    Script.fragments ((select.limited limit offset).script context) =
      Script.fragments (select.frontScript (select.scope context)) ++
        Script.fragments (limitsScript context limit offset) ++
          Script.fragments select.lockScript := by
  have front := admitted.front
  have limits := limitsScript_completes (select.scope context) limit offset
  rw [(admitted.limited limit offset).fragments_eq, scope_limited,
    clausesScript_limited, Script.Completes.fragments_append,
    front.fragments_append]
  · rfl
  · rw [Script.completes_append]
    exact ⟨front, limits⟩

theorem Admitted.completes (admitted : Admitted context select chain) :
    (select.script context).Completes := by
  rw [admitted.script_eq, Script.completes_append]
  exact ⟨Script.completes_notes _, admitted.clauses⟩

theorem completes_limited_iff (context : Context) (select : Select)
    (limit offset : Option Int64) :
    ((select.limited limit offset).script context).Completes ↔
      (select.script context).Completes := by
  constructor
  · intro completes
    obtain ⟨chain, admitted⟩ := admitted_of_completes completes
    have own := admitted.limited select.limit select.offset
    rw [limited_limited, limited_own] at own
    exact own.completes
  · intro completes
    obtain ⟨chain, admitted⟩ := admitted_of_completes completes
    exact (admitted.limited limit offset).completes

end Select

/-! ## How statements end -/

/-- Limits that are asked for end with a parameter. -/
theorem exists_fragments_limitsScript (context : Context)
    {limit offset : Option Int64} (asked : limit ≠ none ∨ offset ≠ none) :
    ∃ before value, Script.fragments (limitsScript context limit offset) =
      before ++ [.parameter value] := by
  cases offset with
  | some skipped =>
      cases limit with
      | some count =>
          exact ⟨[.keyword .limit, .parameter (.int count), .keyword .offset],
            .int skipped, rfl⟩
      | none =>
          cases ceiling : context.dialect.limitMax with
          | some count =>
              refine ⟨[.keyword .limit, .parameter (.int count),
                .keyword .offset], .int skipped, ?_⟩
              rw [limitsScript, ceiling]
              rfl
          | none =>
              refine ⟨[.keyword .offset], .int skipped, ?_⟩
              rw [limitsScript, ceiling]
              rfl
  | none =>
      cases limit with
      | some count => exact ⟨[.keyword .limit], .int count, rfl⟩
      | none => simp at asked

namespace Dialect

/-- A placeholder ends with a question mark, a digit or the letter of a format. -/
theorem getLast?_placeholder (dialect : Dialect) (index : Nat) :
    ∃ char, (dialect.placeholder index).toList.getLast? = some char ∧
      (char = '?' ∨ char = 's' ∨ char.isDigit = true) := by
  unfold placeholder
  split
  · exact ⟨'?', by simp, .inl rfl⟩
  · have present : Nat.toDigits 10 index ≠ [] := Nat.toDigits_ne_nil
    refine ⟨(Nat.toDigits 10 index).getLast present, ?_, .inr (.inr ?_)⟩
    · simp only [String.toList_append, Nat.toString_eq_ofList_toDigits,
        String.toList_ofList]
      rw [List.getLast?_append_of_ne_nil _ present,
        List.getLast?_eq_some_getLast present]
    · exact Nat.isDigit_of_mem_toDigits (by decide) (by decide)
        (List.getLast_mem present)
  · exact ⟨'s', by simp, .inr (.inl rfl)⟩

end Dialect

namespace Fragment

variable {dialect : Dialect}

theorem exists_templateChars_append (dialect : Dialect) (before : Nat)
    (fragments : List Fragment) (last : Fragment) :
    ∃ index, templateChars dialect before (fragments ++ [last]) =
      templateChars dialect before fragments ++ last.chars dialect index := by
  induction fragments generalizing before with
  | nil =>
      refine ⟨before + 1, ?_⟩
      simp [templateChars]
  | cons fragment rest ih =>
      obtain ⟨index, same⟩ :=
        ih (if fragment.value?.isSome then before + 1 else before)
      refine ⟨index, ?_⟩
      rw [List.cons_append, templateChars, templateChars, same,
        List.append_assoc]

theorem getLast?_templateChars_keyword (before : Nat)
    (fragments : List Fragment) {word : Keyword} {char : Char}
    (ends : word.render.toList.getLast? = some char) :
    (templateChars dialect before (fragments ++ [.keyword word])).getLast? =
      some char := by
  obtain ⟨index, same⟩ :=
    exists_templateChars_append dialect before fragments (.keyword word)
  rw [same, List.getLast?_append, chars, ends]
  rfl

theorem getLast?_templateChars_parameter (before : Nat)
    (fragments : List Fragment) (value : Value) :
    ∃ char, (templateChars dialect before
        (fragments ++ [.parameter value])).getLast? = some char ∧
      (char = '?' ∨ char = 's' ∨ char.isDigit = true) := by
  obtain ⟨index, same⟩ :=
    exists_templateChars_append dialect before fragments (.parameter value)
  obtain ⟨char, ends, kind⟩ := dialect.getLast?_placeholder index
  refine ⟨char, ?_, kind⟩
  rw [same, List.getLast?_append, chars, ends]
  rfl

/-- A template that ends with a parenthesis or a lock is none that ends with a
placeholder. -/
theorem template_ne_of_closed {first second : List Fragment} {word : Keyword}
    {value : Value} (closed : word = .closeParen ∨ word = .forUpdate) :
    Statement.template ⟨dialect, first ++ [.keyword word]⟩ ≠
      Statement.template ⟨dialect, second ++ [.parameter value]⟩ := by
  intro same
  have texts := congrArg String.toList same
  rw [Statement.template, Statement.template, String.toList_ofList,
    String.toList_ofList] at texts
  obtain ⟨char, ends, kind⟩ :=
    getLast?_templateChars_parameter 0 second value
  rw [← texts] at ends
  rcases closed with rfl | rfl
  · have parenthesis : Keyword.closeParen.render.toList.getLast? = some ')' := by
      decide
    rw [getLast?_templateChars_keyword 0 first parenthesis] at ends
    cases ends
    revert kind
    decide
  · have lock : Keyword.forUpdate.render.toList.getLast? = some 'E' := by
      decide
    rw [getLast?_templateChars_keyword 0 first lock] at ends
    cases ends
    revert kind
    decide

end Fragment

/-! ## The two compounds -/

namespace Compound

variable {context : Context} {left : Operand} {operator : SetOperator}
variable {right : Select} {limit offset : Option Int64}

/-- The compound whose right operand has the limits. -/
def limitedRight (left : Operand) (operator : SetOperator) (right : Select)
    (limit offset : Option Int64) : Compound :=
  .of left operator (.select (right.limited limit offset))

/-- The compound that has the limits itself. -/
def limitedWhole (left : Operand) (operator : SetOperator) (right : Select)
    (limit offset : Option Int64) : Compound :=
  (Compound.of left operator (.select right)).limited limit offset

theorem script_limitedRight (context : Context) (left : Operand)
    (operator : SetOperator) (right : Select) (limit offset : Option Int64) :
    (limitedRight left operator right limit offset).script context =
      left.script context ++ Script.keyword operator.keyword ++
        Script.parensIf (context.dialect.operandParens == .always)
          ((right.limited limit offset).script context) := by
  rw [limitedRight, of, script, OrderTerm.scripts]
  show _ ++ [] ++ [] = _
  rw [List.append_nil, List.append_nil]
  rfl

theorem script_limitedWhole (context : Context) (left : Operand)
    (operator : SetOperator) (right : Select) (limit offset : Option Int64) :
    (limitedWhole left operator right limit offset).script context =
      left.script context ++ Script.keyword operator.keyword ++
        Script.parensIf (context.dialect.operandParens == .always)
          (right.script context) ++ limitsScript context limit offset := by
  rw [limitedWhole, limited, of, script, OrderTerm.scripts]
  show _ ++ [] ++ _ = _
  rw [List.append_nil]
  rfl

/-- Both compounds are written to their end, or neither is. -/
theorem completes_limitedRight_iff :
    ((limitedRight left operator right limit offset).script
        context).Completes ↔
      ((limitedWhole left operator right limit offset).script
        context).Completes := by
  have limits := limitsScript_completes context limit offset
  simp [script_limitedRight, script_limitedWhole,
    Select.completes_limited_iff, limits]

/-- The compound with limits of its own ends with a parameter. -/
theorem exists_fragments_limitedWhole (asked : limit ≠ none ∨ offset ≠ none)
    (completes : ((limitedWhole left operator right limit offset).script
      context).Completes) :
    ∃ before value, Script.fragments
        ((limitedWhole left operator right limit offset).script context) =
      before ++ [.parameter value] := by
  rw [script_limitedWhole] at completes ⊢
  have sides := ((Script.completes_append _ _).mp completes).1
  obtain ⟨before, value, limits⟩ := exists_fragments_limitsScript context asked
  rw [sides.fragments_append, limits, ← List.append_assoc]
  exact ⟨_, value, rfl⟩

/-- Without parentheses and lock both compounds are written alike.  Otherwise the
one with limits inside ends with a parenthesis or the lock. -/
theorem fragments_limitedRight_cases (unlimited : right.limit = none)
    (unskipped : right.offset = none)
    (completes : ((limitedWhole left operator right limit offset).script
      context).Completes) :
    (context.dialect.operandParens ≠ .always ∧ right.forUpdate = false ∧
      Script.fragments
          ((limitedRight left operator right limit offset).script context) =
        Script.fragments
          ((limitedWhole left operator right limit offset).script context)) ∨
    (¬ (context.dialect.operandParens ≠ .always ∧ right.forUpdate = false) ∧
      ∃ before word, Script.fragments
          ((limitedRight left operator right limit offset).script context) =
        before ++ [.keyword word] ∧
        (word = .closeParen ∨ word = .forUpdate)) := by
  rw [script_limitedWhole] at completes
  obtain ⟨sides, limits⟩ := (Script.completes_append _ _).mp completes
  obtain ⟨front, wrapped⟩ := (Script.completes_append _ _).mp sides
  have own := (Script.completes_parensIf _ _).mp wrapped
  obtain ⟨chain, admitted⟩ := Select.admitted_of_completes own
  have inner := (admitted.limited limit offset).completes
  rw [script_limitedRight, script_limitedWhole, sides.fragments_append,
    front.fragments_append, front.fragments_append]
  cases enclosed : context.dialect.operandParens == .always with
  | true =>
      right
      rw [Script.parensIf, if_pos rfl, inner.fragments_parens,
        ← List.cons_append, ← List.append_assoc]
      refine ⟨?_, _, .closeParen, rfl, .inl rfl⟩
      intro apart
      exact apart.1 (beq_iff_eq.mp enclosed)
  | false =>
      rw [Script.parensIf, if_neg Bool.false_ne_true, Script.parensIf,
        if_neg Bool.false_ne_true, admitted.fragments_limited]
      cases lock : right.forUpdate with
      | true =>
          right
          rw [Select.lockScript, lock, ← List.append_assoc]
          refine ⟨?_, _, .forUpdate, rfl, .inr rfl⟩
          intro apart
          cases apart.2
      | false =>
          left
          refine ⟨beq_eq_false_iff_ne.mp enclosed, rfl, ?_⟩
          have plain := admitted.fragments_limited none none
          rw [Select.limited_none unlimited unskipped] at plain
          rw [plain, Select.lockScript, lock]
          simp [limitsScript]

end Compound

namespace Database

/-- A compound compiles with the limits on its right operand exactly if it does
with limits of its own.  Then both are the same statement, unless the operand
is parenthesised or locked. -/
theorem limits_confused_iff (database : Database) (left : Operand)
    (operator : SetOperator) {right : Select} {limit offset : Option Int64}
    (unlimited : right.limit = none) (unskipped : right.offset = none)
    (asked : limit ≠ none ∨ offset ≠ none) :
    ((∃ inner, (database.compile (.compound
        (.limitedRight left operator right limit offset))).result =
          .ok inner) ↔
      ∃ outer, (database.compile (.compound
        (.limitedWhole left operator right limit offset))).result =
          .ok outer) ∧
    ∀ inner outer,
      (database.compile (.compound
        (.limitedRight left operator right limit offset))).result =
          .ok inner →
      (database.compile (.compound
        (.limitedWhole left operator right limit offset))).result =
          .ok outer →
      (inner.template = outer.template ∧ inner.values = outer.values ↔
        database.dialect.operandParens ≠ .always ∧
          right.forUpdate = false) := by
  constructor
  · constructor
    · rintro ⟨inner, compiled⟩
      have completes := ((compile_eq_ok_iff _ _ _).mp compiled).1
      refine ⟨_, (compile_eq_ok_iff _ _ _).mpr ⟨?_, rfl⟩⟩
      exact Compound.completes_limitedRight_iff.mp completes
    · rintro ⟨outer, compiled⟩
      have completes := ((compile_eq_ok_iff _ _ _).mp compiled).1
      refine ⟨_, (compile_eq_ok_iff _ _ _).mpr ⟨?_, rfl⟩⟩
      exact Compound.completes_limitedRight_iff.mpr completes
  · intro inner outer compiled compiled'
    obtain ⟨_, rfl⟩ := (compile_eq_ok_iff _ _ _).mp compiled
    obtain ⟨completes, rfl⟩ := (compile_eq_ok_iff _ _ _).mp compiled'
    rcases Compound.fragments_limitedRight_cases unlimited unskipped completes
      with ⟨bare, unlocked, same⟩ | ⟨apart, before, word, ends, closed⟩
    · refine iff_of_true ?_ ⟨bare, unlocked⟩
      rw [Node.script, Node.script, same]
      exact ⟨rfl, rfl⟩
    · refine iff_of_false ?_ apart
      obtain ⟨rest, value, limits⟩ :=
        Compound.exists_fragments_limitedWhole asked completes
      rintro ⟨same, _⟩
      rw [Node.script, Node.script, ends, limits] at same
      exact Fragment.template_ne_of_closed closed same

/-- `SELECT * FROM "person" UNION SELECT * FROM "person" LIMIT ?` -/
theorem limits_confused_iff_union :
    Select.everyone.limit = none ∧ Select.everyone.offset = none ∧
    ∃ inner outer,
      ((⟨.sqlite, none⟩ : Database).compile (.compound
        (.limitedRight (.select .everyone) .union .everyone (some 1)
          none))).result = .ok inner ∧
      ((⟨.sqlite, none⟩ : Database).compile (.compound
        (.limitedWhole (.select .everyone) .union .everyone (some 1)
          none))).result = .ok outer ∧
      inner.template = outer.template ∧ inner.values = outer.values := by
  have confused := @limits_confused_iff ⟨.sqlite, none⟩
    (.select .everyone) .union .everyone (some 1) none rfl rfl (.inl (by decide))
  refine ⟨rfl, rfl, _, _, rfl, rfl, ?_⟩
  exact (confused.2 _ _ rfl rfl).mpr ⟨by decide, rfl⟩

/-- A limit of an operand may become one of the combined result. -/
theorem not_forall_limits_apart :
    ¬ ∀ (dialect : Dialect) (left right : Select) (operator : SetOperator)
        (limit offset : Option Int64),
      dialect ∈ Dialect.presets →
      left.limit = none → left.offset = none →
      right.limit = none → right.offset = none →
      limit ≠ none ∨ offset ≠ none →
      ∀ inner outer,
        ((⟨dialect, none⟩ : Database).compile (.compound
          (.limitedRight (.select left) operator right limit
            offset))).result = .ok inner →
        ((⟨dialect, none⟩ : Database).compile (.compound
          (.limitedWhole (.select left) operator right limit
            offset))).result = .ok outer →
        ¬ (inner.template = outer.template ∧ inner.values = outer.values) := by
  intro apart
  apply apart .sqlite .everyone .everyone .union (some 1) none
    (by simp [Dialect.presets]) rfl rfl rfl rfl (.inl (by decide)) _ _ rfl rfl
  exact ⟨rfl, rfl⟩

end Database

end SqlWeave
