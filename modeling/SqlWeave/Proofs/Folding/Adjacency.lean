import SqlWeave.Proofs.Precedence.Printing

/-!
# What may stand behind an operator

Most operators may be followed by anything.  `NOT` is not to be followed by
another one, and `=` and `<>` not by a `NULL` that is all they are compared
with.  A script is proper if nothing else is behind these operators in it, and
proper scripts can be put together like any others (`Script.Proper`).
-/

namespace SqlWeave

namespace Operator

/-- All operators. -/
def all : List Operator :=
  [.unary .not, .unary .bitNot] ++ BinaryOperator.all.map .binary

theorem mem_all (operator : Operator) : operator ∈ all := by
  cases operator with
  | unary operator => cases operator <;> decide
  | binary operator =>
      exact List.mem_append_right _ (List.mem_map_of_mem operator.mem_all)

/-- The operators of which it matters what is written behind them. -/
def watched : List Operator := [.unary .not, .binary .eq, .binary .ne]

@[simp] theorem mem_watched_iff (operator : Operator) :
    operator ∈ watched ↔ operator = .unary .not ∨
      operator = .binary .eq ∨ operator = .binary .ne := by
  simp [watched]

end Operator

namespace Dialect

/-- `NOT`, `=` and `<>` are spelled like no other operator, no keyword of
clauses and no parenthesis, and `~` is not spelled like `NULL`. -/
structure SpellsDistinctly (dialect : Dialect) : Prop where
  free : ∀ operator ∈ Operator.watched,
    dialect.operatorKeyword operator ∉ Keyword.clauses ∧
      (dialect.operatorKeyword operator).IsPlain
  alone : ∀ operator ∈ Operator.watched, ∀ other,
    dialect.operatorKeyword other = dialect.operatorKeyword operator →
      other = operator
  notNull : dialect.operatorKeyword (.unary .bitNot) ≠ .null

/-- The dialects that come with the library spell their operators distinctly. -/
theorem spellsDistinctly_of_mem_presets :
    ∀ dialect ∈ presets, dialect.SpellsDistinctly := by
  intro dialect known
  constructor
  · revert dialect
    decide
  · intro operator watched other same
    have apart : ∀ dialect ∈ presets, ∀ operator ∈ Operator.watched,
        ∀ other ∈ Operator.all,
        dialect.operatorKeyword other = dialect.operatorKeyword operator →
          other = operator := by decide
    exact apart dialect known operator watched other other.mem_all same
  · revert dialect
    decide

variable (dialect : Dialect)

/-- The fragments begin with a binary operator that binds from `level` on. -/
def BeginsBinary (level : Nat) (fragments : List Fragment) : Prop :=
  ∃ operator : BinaryOperator,
    level ≤ (Operator.binary operator).precedence ∧
    ∃ rest, fragments =
      .keyword (dialect.operatorKeyword (.binary operator)) :: rest

/-- The fragments begin with an operand: not with `NOT`, and with `NULL` only in
front of a binary operator that binds from `level` on. -/
def BeginsOperand (level : Nat) (fragments : List Fragment) : Prop :=
  ∃ first rest, fragments = first :: rest ∧
    first ≠ .keyword (dialect.operatorKeyword (.unary .not)) ∧
    (first = .keyword .null → dialect.BeginsBinary level rest)

/-- The fragments may stand behind the keyword. -/
structure Admits (word : Keyword) (rest : List Fragment) : Prop where
  negation : word = dialect.operatorKeyword (.unary .not) →
    ∃ first others, rest = first :: others ∧ first ≠ .keyword word
  equality : word = dialect.operatorKeyword (.binary .eq) ∨
      word = dialect.operatorKeyword (.binary .ne) →
    dialect.BeginsOperand 5 rest

/-- What stands behind each keyword may stand there. -/
def AdmitsAll (fragments : List Fragment) : Prop :=
  ∀ before word rest, fragments = before ++ .keyword word :: rest →
    dialect.Admits word rest

variable {dialect} {level : Nat} {word : Keyword}
variable {fragments first second : List Fragment}

/-! ## More behind the fragments -/

theorem BeginsBinary.append (begins : dialect.BeginsBinary level fragments)
    (more : List Fragment) : dialect.BeginsBinary level (fragments ++ more) := by
  obtain ⟨operator, tight, rest, rfl⟩ := begins
  exact ⟨operator, tight, rest ++ more, rfl⟩

theorem BeginsOperand.append (begins : dialect.BeginsOperand level fragments)
    (more : List Fragment) :
    dialect.BeginsOperand level (fragments ++ more) := by
  obtain ⟨head, rest, rfl, notNegation, operates⟩ := begins
  exact ⟨head, rest ++ more, rfl, notNegation,
    fun null => (operates null).append more⟩

theorem Admits.append (admits : dialect.Admits word fragments)
    (more : List Fragment) : dialect.Admits word (fragments ++ more) := by
  constructor
  · intro negation
    obtain ⟨head, rest, rfl, differs⟩ := admits.negation negation
    exact ⟨head, rest ++ more, rfl, differs⟩
  · intro equality
    exact (admits.equality equality).append more

namespace AdmitsAll

theorem nil : dialect.AdmitsAll [] := by
  intro before word rest split
  simp at split

theorem append (front : dialect.AdmitsAll first)
    (back : dialect.AdmitsAll second) : dialect.AdmitsAll (first ++ second) := by
  intro before word rest split
  rcases List.append_eq_append_iff.mp split with
    ⟨middle, _, inSecond⟩ | ⟨middle, inFirst, crossing⟩
  · exact back middle word rest inSecond
  · cases middle with
    | nil => exact back [] word rest crossing.symm
    | cons head tail =>
        rw [List.cons_append, List.cons.injEq] at crossing
        obtain ⟨rfl, rfl⟩ := crossing
        exact (front before word tail inFirst).append second

theorem cons_keyword (admits : dialect.Admits word fragments)
    (inner : dialect.AdmitsAll fragments) :
    dialect.AdmitsAll (.keyword word :: fragments) := by
  intro before other rest split
  cases before with
  | nil =>
      rw [List.nil_append, List.cons.injEq, Fragment.keyword.injEq] at split
      obtain ⟨rfl, rfl⟩ := split
      exact admits
  | cons head tail =>
      rw [List.cons_append, List.cons.injEq] at split
      exact inner tail other rest split.2

theorem singleton {fragment : Fragment}
    (noKeyword : ∀ word, fragment ≠ .keyword word) :
    dialect.AdmitsAll [fragment] := by
  intro before word rest split
  cases before with
  | nil => exact absurd (List.cons.inj split).1 (noKeyword word)
  | cons head tail => simp at split

/-- No `NOT` stands behind another one. -/
theorem not_infix_negations (admitsAll : dialect.AdmitsAll fragments) :
    ¬ [.keyword (dialect.operatorKeyword (.unary .not)),
      .keyword (dialect.operatorKeyword (.unary .not))] <:+: fragments := by
  rintro ⟨before, after, split⟩
  rw [List.append_assoc] at split
  obtain ⟨first, others, next, differs⟩ :=
    (admitsAll before _ _ split.symm).negation rfl
  apply differs
  exact (List.cons.inj next).1.symm

/-- Behind a `NULL` that stands behind `=` or `<>` an operator follows. -/
theorem beginsBinary_of_null {operator : BinaryOperator}
    {before after : List Fragment} (admitsAll : dialect.AdmitsAll fragments)
    (equality : operator = .eq ∨ operator = .ne)
    (split : fragments = before ++
      .keyword (dialect.operatorKeyword (.binary operator)) ::
        .keyword .null :: after) : dialect.BeginsBinary 5 after := by
  have admits := admitsAll before _ _ split
  obtain ⟨first, rest, next, _, operates⟩ := admits.equality (by
    rcases equality with rfl | rfl
    · exact .inl rfl
    · exact .inr rfl)
  obtain ⟨rfl, rfl⟩ := List.cons.inj next
  exact operates rfl

end AdmitsAll

/-! ## What may stand behind a keyword -/

/-- Behind a keyword that is spelled like neither of the three operators
anything may stand. -/
theorem admits_of_ne
    (differs : ∀ operator ∈ Operator.watched,
      word ≠ dialect.operatorKeyword operator)
    (rest : List Fragment) : dialect.Admits word rest := by
  constructor
  · intro negation
    exact absurd negation (differs _ (by simp))
  · rintro (equality | equality)
    · exact absurd equality (differs _ (by simp))
    · exact absurd equality (differs _ (by simp))

namespace SpellsDistinctly

variable (distinct : dialect.SpellsDistinctly)

include distinct

theorem admits_clause (known : word ∈ Keyword.clauses) (rest : List Fragment) :
    dialect.Admits word rest := by
  apply admits_of_ne
  rintro operator watched rfl
  exact (distinct.free operator watched).1 known

theorem admits_openParen (rest : List Fragment) :
    dialect.Admits .openParen rest := by
  apply admits_of_ne
  intro operator watched
  exact (distinct.free operator watched).2.1.symm

theorem admits_closeParen (rest : List Fragment) :
    dialect.Admits .closeParen rest := by
  apply admits_of_ne
  intro operator watched
  exact (distinct.free operator watched).2.2.symm

theorem null_ne_negation :
    Keyword.null ≠ dialect.operatorKeyword (.unary .not) := by
  intro same
  apply (distinct.free (.unary .not) (by simp)).1
  rw [← same]
  decide

/-- What begins with a parenthesis begins with an operand. -/
theorem beginsOperand_openParen (rest : List Fragment) :
    dialect.BeginsOperand level (.keyword .openParen :: rest) := by
  refine ⟨_, rest, rfl, ?_, ?_⟩
  · intro same
    exact (distinct.free (.unary .not) (by simp)).2.1
      (Fragment.keyword.inj same).symm
  · intro same
    exact absurd (Fragment.keyword.inj same) (by decide)

theorem admits_unary {operator : UnaryOperator} {rest : List Fragment}
    (negation : operator = .not → ∃ first others, rest = first :: others ∧
      first ≠ .keyword (dialect.operatorKeyword (.unary .not))) :
    dialect.Admits (dialect.operatorKeyword (.unary operator)) rest := by
  constructor
  · intro same
    have isNot := distinct.alone _ (by simp) _ same
    rw [Operator.unary.injEq] at isNot
    rw [isNot]
    exact negation isNot
  · rintro (same | same)
    · exact nomatch distinct.alone _ (by simp) _ same
    · exact nomatch distinct.alone _ (by simp) _ same

theorem admits_binary {operator : BinaryOperator} {rest : List Fragment}
    (equality : operator = .eq ∨ operator = .ne →
      dialect.BeginsOperand 5 rest) :
    dialect.Admits (dialect.operatorKeyword (.binary operator)) rest := by
  constructor
  · intro same
    exact nomatch distinct.alone _ (by simp) _ same
  · rintro (same | same)
    · exact equality (.inl (Operator.binary.inj
        (distinct.alone _ (by simp) _ same)))
    · exact equality (.inr (Operator.binary.inj
        (distinct.alone _ (by simp) _ same)))

end SpellsDistinctly

end Dialect

variable {context : Context}

/-! ## Scripts -/

/-- If the script completes, what stands behind each of its keywords may stand
there. -/
def Script.Proper (dialect : Dialect) (script : Script) : Prop :=
  script.Completes → dialect.AdmitsAll script.fragments

namespace Script.Proper

variable {dialect : Dialect} {first second : Script}

theorem nil : Proper dialect [] := by
  intro _
  exact .nil

theorem fail (error : QueryError) : Proper dialect (Script.fail error) := by
  intro completes
  exact absurd completes (not_completes_fail error)

theorem name (path : Path) : Proper dialect (Script.name path) := by
  intro _
  exact .singleton nofun

theorem parameter (value : Value) : Proper dialect (Script.parameter value) := by
  intro _
  exact .singleton nofun

theorem append (front : Proper dialect first) (back : Proper dialect second) :
    Proper dialect (first ++ second) := by
  intro completes
  obtain ⟨left, right⟩ := (completes_append _ _).mp completes
  rw [left.fragments_append]
  exact (front left).append (back right)

variable (distinct : dialect.SpellsDistinctly)

include distinct

theorem clause {word : Keyword} (known : word ∈ Keyword.clauses) :
    Proper dialect (Script.keyword word) := by
  intro _
  exact .cons_keyword (distinct.admits_clause known []) .nil

theorem parens (inner : Proper dialect first) :
    Proper dialect first.parens := by
  intro completes
  have within := (completes_parens _).mp completes
  rw [within.fragments_parens]
  apply Dialect.AdmitsAll.cons_keyword (distinct.admits_openParen _)
  apply (inner within).append
  exact .cons_keyword (distinct.admits_closeParen []) .nil

theorem parensIf (inner : Proper dialect first) (wrapped : Bool) :
    Proper dialect (first.parensIf wrapped) := by
  cases wrapped with
  | false => exact inner
  | true => exact inner.parens distinct

theorem commaSeparated {scripts : List Script}
    (each : ∀ script ∈ scripts, Proper dialect script) :
    Proper dialect (Script.commaSeparated scripts) := by
  induction scripts with
  | nil => exact nil
  | cons script rest ih =>
      rw [List.forall_mem_cons] at each
      cases rest with
      | nil => exact each.1
      | cons next others =>
          exact (each.1.append (clause distinct (by decide))).append (ih each.2)

theorem ordering {terms : List Script}
    (each : ∀ term ∈ terms, Proper dialect term) :
    Proper dialect (orderingScript terms) := by
  rw [orderingScript]
  split
  · exact nil
  · exact (clause distinct (by decide)).append (commaSeparated distinct each)

theorem filter (constant : Option Bool) (inner : Proper dialect first) :
    Proper dialect (filterScript constant first) := by
  match constant with
  | some true => exact nil
  | some false =>
      exact (clause distinct (by decide)).append (clause distinct (by decide))
  | none => exact (clause distinct (by decide)).append inner

theorem limits (context : Context) (limit offset : Option Int64) :
    Proper dialect (limitsScript context limit offset) := by
  unfold limitsScript
  apply append
  · split
    · exact (clause distinct (by decide)).append (parameter _)
    · exact nil
  · split
    · exact (clause distinct (by decide)).append (parameter _)
    · exact nil

end Script.Proper

end SqlWeave
