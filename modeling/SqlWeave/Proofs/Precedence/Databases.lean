import SqlWeave.Dialect.Presets
import SqlWeave.Proofs.Precedence.Keeping

/-!
# Expressions as SQLite and PostgreSQL read them

The tables of SQLite and PostgreSQL differ from the one that parentheses are
written by.  Most of the differences do not matter, because the operators
concerned never stand next to one another without parentheses.  What remains is
`||` in SQLite, which binds tighter than arithmetic, and in PostgreSQL the bit
operators and `||`, which bind alike and less than arithmetic.  `Expr.keeps_iff`
tells exactly which expressions each of the databases groups as they were
built, and `Expr.not_keeps` that there are others.
-/

namespace SqlWeave

/-! ## The tables of the databases -/

namespace Precedences

/-- The precedences of SQLite. -/
def sqlite : Precedences where
  rows :=
    [[.between "OR"],
      [.between "AND"],
      [.leading "NOT"],
      [.between "=", .between "<>", .between "IS", .between "IS NOT",
        .between "IN", .between "NOT IN", .between "LIKE"],
      [.between "<", .between "<=", .between ">", .between ">="],
      [.between "&", .between "|"],
      [.between "+", .between "-"],
      [.between "*", .between "/", .between "%"],
      [.between "||"],
      [.bare "~"]]
  unaries := [.leading "NOT", .bare "~"]
  free := by decide

/-- The precedences of PostgreSQL. -/
def postgres : Precedences where
  rows :=
    [[.between "OR"],
      [.between "AND"],
      [.leading "NOT"],
      [.between "IS", .between "IS NOT"],
      [.between "<", .between ">", .between "=", .between "<=",
        .between ">=", .between "<>"],
      [.between "IN", .between "NOT IN", .between "LIKE", .between "ILIKE"],
      [.between "||", .between "&", .between "|", .between "#", .bare "~"],
      [.between "+", .between "-"],
      [.between "*", .between "/", .between "%"]]
  unaries := [.leading "NOT", .bare "~"]
  free := by decide

end Precedences

/-! ## Kinds of operators -/

/-- Whether the operator computes with numbers. -/
def BinaryOperator.isArithmetic : BinaryOperator → Bool
  | add | sub | mul | div | mod => true
  | _ => false

/-- Whether the operator combines bits. -/
def BinaryOperator.isBitwise : BinaryOperator → Bool
  | bitAnd | bitOr | xor => true
  | _ => false

/-- Whether the operator computes with numbers. -/
def Operator.isArithmetic : Operator → Bool
  | binary operator => operator.isArithmetic
  | unary _ => false

theorem Operator.isArithmetic_of_precedence {operator : Operator}
    (above : 6 < operator.precedence) (below : operator.precedence ≤ 8) :
    operator.isArithmetic = true := by
  revert above below
  rcases operator with operator | operator <;> cases operator <;> decide

theorem Operator.eq_concat_of_precedence {operator : Operator}
    (same : operator.precedence = 6) : operator = .binary .concat := by
  revert same
  rcases operator with operator | operator <;> cases operator <;> decide

theorem Operator.precedence_le_of_arithmetic {operator : Operator}
    (arithmetic : operator.isArithmetic = true) : operator.precedence ≤ 8 := by
  revert arithmetic
  rcases operator with operator | operator <;> cases operator <;> decide

namespace Expr

/-- Whether an arithmetic operator stands at the root. -/
def isArithmetic (expr : Expr) : Bool :=
  expr.root?.any Operator.isArithmetic

theorem isArithmetic_iff (expr : Expr) :
    expr.isArithmetic = true ↔
      ∃ operator : BinaryOperator, expr.root? = some (.binary operator) ∧
        operator.isArithmetic = true := by
  rw [isArithmetic]
  cases expr.root? with
  | none => simp
  | some root => cases root <;> simp [Operator.isArithmetic]

/-- What binds tighter than `||` and not as tightly as `~` is arithmetic. -/
theorem isArithmetic_of_root {expr : Expr} {root : Operator}
    (found : expr.root? = some root) (above : 6 < root.precedence)
    (below : root.precedence ≤ 8) : expr.isArithmetic = true := by
  rw [isArithmetic, found]
  exact Operator.isArithmetic_of_precedence above below

end Expr

/-! ## SQLite -/

/-- The operator is `||`, and one of its operands is arithmetic. -/
def RegroupedBySqlite (operator : BinaryOperator) (left right : Expr) : Prop :=
  operator = .concat ∧
    (left.isArithmetic = true ∨ right.isArithmetic = true)

instance (operator : BinaryOperator) (left right : Expr) :
    Decidable (RegroupedBySqlite operator left right) :=
  inferInstanceAs (Decidable (_ ∧ _))

namespace Precedences

/-- SQLite has every operator but `#`. -/
theorem knows_of_sqlite {operator : Operator}
    (known : operator ≠ .binary .xor) :
    sqlite.Knows .sqlite operator := by
  revert known
  rcases operator with operator | operator <;> cases operator <;> decide

/-- SQLite leaves a left operand to its operator, but for arithmetic in front of
`||`. -/
theorem rank_le_of_sqlite {parent : BinaryOperator} {edge : Operator}
    (known : Operator.binary parent ≠ .binary .xor)
    (reach : standardGrammar.leftLevel parent ≤ edge.precedence) :
    sqlite.rank .sqlite (.binary parent) ≤ sqlite.rank .sqlite edge ∨
      parent = .concat ∧ edge.isArithmetic = true := by
  revert known reach
  rcases edge with edge | edge <;> cases parent <;> cases edge <;> decide

/-- SQLite leaves a right operand to its operator, but for arithmetic behind
`||`. -/
theorem rank_lt_of_sqlite {parent edge : BinaryOperator}
    (known : Operator.binary parent ≠ .binary .xor)
    (reach : (Operator.binary parent).precedence <
      (Operator.binary edge).precedence) :
    sqlite.rank .sqlite (.binary parent) <
        sqlite.rank .sqlite (.binary edge) ∨
      parent = .concat ∧ edge.isArithmetic = true := by
  revert known reach
  cases parent <;> cases edge <;> decide

theorem unary_rank_lt_of_sqlite {parent : UnaryOperator}
    {edge : BinaryOperator}
    (reach : (Operator.unary parent).precedence ≤
      (Operator.binary edge).precedence) :
    sqlite.rank .sqlite (.unary parent) <
      sqlite.rank .sqlite (.binary edge) := by
  revert reach
  cases parent <;> cases edge <;> decide

theorem rank_lt_concat_of_sqlite {edge : BinaryOperator}
    (arithmetic : edge.isArithmetic = true) :
    sqlite.rank .sqlite (.binary edge) <
      sqlite.rank .sqlite (.binary .concat) := by
  revert arithmetic
  cases edge <;> decide

end Precedences

/-- Under `||` no arithmetic is in parentheses. -/
theorem wrapped_concat_of_arithmetic {expr : Expr}
    {operator : BinaryOperator} (root : expr.root? = some (.binary operator))
    (arithmetic : operator.isArithmetic = true) (onRight : Bool) :
    expr.wrapped (.binary .concat) onRight = false := by
  rw [Expr.wrapped, root]
  revert arithmetic
  cases operator <;> decide +revert

namespace Expr

/-- A left operand of `||` that ends with arithmetic is arithmetic itself, unless
there is an inner `||` for SQLite to regroup. -/
theorem isArithmetic_of_mem_rightEdge {expr : Expr} {root edge : Operator}
    (fine : ¬ expr.HasBinary RegroupedBySqlite) (found : expr.root? = some root)
    (above : 6 ≤ root.precedence) (below : root.precedence ≤ edge.precedence)
    (member : edge ∈ expr.rightEdge) (arithmetic : edge.isArithmetic = true) :
    expr.isArithmetic = true := by
  have upper := Operator.precedence_le_of_arithmetic arithmetic
  rcases Nat.lt_or_eq_of_le above with tighter | same
  · exact isArithmetic_of_root found tighter (Nat.le_trans below upper)
  · have root := found.trans
      (congrArg some (Operator.eq_concat_of_precedence same.symm))
    cases expr with
    | binary operator left right =>
        cases root
        rcases List.mem_cons.mp member with rfl | inside
        · cases arithmetic
        · cases bare : right.wrapped (.binary .concat) true with
          | true => simp [bare] at inside
          | false =>
              rw [bare] at inside
              obtain ⟨child, top, within, lower⟩ := exists_root_of_bare
                (fun _ => Operator.lt_precedence_of_right) bare
                (right.root_le_rightEdge inside)
              have number := isArithmetic_of_root top within
                (Nat.le_trans lower upper)
              exact absurd (.inl ⟨rfl, .inr number⟩) fine
    | _ => cases root

theorem keeps_iff_not_regroupedBySqlite {operator : BinaryOperator}
    {left right : Expr} (known : Operator.binary operator ≠ .binary .xor)
    (fineLeft : ¬ left.HasBinary RegroupedBySqlite) :
    KeepsLeft (Precedences.sqlite.rank .sqlite) operator left ∧
        KeepsRight (Precedences.sqlite.rank .sqlite) operator right ↔
      ¬ RegroupedBySqlite operator left right := by
  constructor
  · rintro ⟨keepsLeft, keepsRight⟩ ⟨rfl, arithmetic | arithmetic⟩
    · obtain ⟨inner, root, number⟩ := left.isArithmetic_iff.mp arithmetic
      have bare := wrapped_concat_of_arithmetic root number false
      exact Nat.not_le.mpr (Precedences.rank_lt_concat_of_sqlite number)
        (keepsLeft bare _ (mem_rightEdge_of_root root))
    · obtain ⟨inner, root, number⟩ := right.isArithmetic_iff.mp arithmetic
      have bare := wrapped_concat_of_arithmetic root number true
      exact Nat.lt_asymm (Precedences.rank_lt_concat_of_sqlite number)
        (keepsRight bare _ (mem_leftEdge_of_root root))
  · intro fine
    constructor
    · intro bare earlier member
      obtain ⟨root, found, within, below⟩ := exists_root_of_left bare member
      refine (Precedences.rank_le_of_sqlite known
        (Nat.le_trans within below)).resolve_right ?_
      rintro ⟨rfl, arithmetic⟩
      exact fine ⟨rfl, .inl (isArithmetic_of_mem_rightEdge fineLeft found
        within below member arithmetic)⟩
    · intro bare later member
      obtain ⟨root, found, within, below⟩ := exists_root_of_right bare member
      refine (Precedences.rank_lt_of_sqlite known
        (Nat.lt_of_lt_of_le within below)).resolve_right ?_
      rintro ⟨rfl, arithmetic⟩
      have upper :=
        @Operator.precedence_le_of_arithmetic (.binary later) arithmetic
      exact fine ⟨rfl, .inr (isArithmetic_of_root found within
        (Nat.le_trans below upper))⟩

end Expr

/-! ## PostgreSQL -/

/-- The operator combines bits and has an operation `||` on its right, or it is
arithmetic and follows an operand that ends with an operation `~`. -/
def RegroupedByPostgres (operator : BinaryOperator) (left right : Expr) :
    Prop :=
  (operator.isBitwise = true ∧ right.root? = some (.binary .concat)) ∨
    (operator.isArithmetic = true ∧
      left.wrapped (.binary operator) false = false ∧
      Operator.unary .bitNot ∈ left.rightEdge)

instance (operator : BinaryOperator) (left right : Expr) :
    Decidable (RegroupedByPostgres operator left right) :=
  inferInstanceAs (Decidable (_ ∨ _))

namespace Precedences

/-- PostgreSQL has every operator. -/
theorem knows_of_postgres (operator : Operator) :
    postgres.Knows .postgres operator := by
  rcases operator with operator | operator <;> cases operator <;> decide

/-- PostgreSQL leaves a left operand to its operator, but for one that ends with
`~` in front of arithmetic. -/
theorem rank_le_of_postgres {parent : BinaryOperator} {edge : Operator}
    (reach : standardGrammar.leftLevel parent ≤ edge.precedence) :
    postgres.rank .postgres (.binary parent) ≤
        postgres.rank .postgres edge ∨
      parent.isArithmetic = true ∧ edge = .unary .bitNot := by
  revert reach
  rcases edge with edge | edge <;> cases parent <;> cases edge <;> decide

/-- PostgreSQL leaves a right operand to its operator, but for one of `||` behind
a bit operator. -/
theorem rank_lt_of_postgres {parent edge : BinaryOperator}
    (reach : (Operator.binary parent).precedence <
      (Operator.binary edge).precedence) :
    postgres.rank .postgres (.binary parent) <
        postgres.rank .postgres (.binary edge) ∨
      parent.isBitwise = true ∧ edge = .concat := by
  revert reach
  cases parent <;> cases edge <;> decide

theorem unary_rank_lt_of_postgres {parent : UnaryOperator}
    {edge : BinaryOperator}
    (reach : (Operator.unary parent).precedence ≤
      (Operator.binary edge).precedence) :
    postgres.rank .postgres (.unary parent) <
      postgres.rank .postgres (.binary edge) := by
  revert reach
  cases parent <;> cases edge <;> decide

theorem rank_bitNot_lt_of_postgres {parent : BinaryOperator}
    (arithmetic : parent.isArithmetic = true) :
    postgres.rank .postgres (.unary .bitNot) <
      postgres.rank .postgres (.binary parent) := by
  revert arithmetic
  cases parent <;> decide

theorem rank_concat_eq_of_postgres {parent : BinaryOperator}
    (bitwise : parent.isBitwise = true) :
    postgres.rank .postgres (.binary .concat) =
      postgres.rank .postgres (.binary parent) := by
  revert bitwise
  cases parent <;> decide

end Precedences

theorem BinaryOperator.precedence_of_bitwise {operator : BinaryOperator}
    (bitwise : operator.isBitwise = true) :
    (Operator.binary operator).precedence = 5 := by
  revert bitwise
  cases operator <;> decide

namespace Expr

/-- A bit operator has no parentheses around `||`. -/
theorem wrapped_bitwise_of_concat {expr : Expr} {operator : BinaryOperator}
    (bitwise : operator.isBitwise = true)
    (root : expr.root? = some (.binary .concat)) (onRight : Bool) :
    expr.wrapped (.binary operator) onRight = false := by
  rw [Expr.wrapped, root]
  revert bitwise
  cases operator <;> decide +revert

theorem keeps_iff_not_regroupedByPostgres {operator : BinaryOperator}
    {left right : Expr} :
    KeepsLeft (Precedences.postgres.rank .postgres) operator left ∧
        KeepsRight (Precedences.postgres.rank .postgres) operator right ↔
      ¬ RegroupedByPostgres operator left right := by
  constructor
  · rintro ⟨keepsLeft, keepsRight⟩ (⟨bitwise, root⟩ | ⟨number, bare, ends⟩)
    · have bare := wrapped_bitwise_of_concat bitwise root true
      exact Nat.ne_of_gt (keepsRight bare _ (mem_leftEdge_of_root root))
        (Precedences.rank_concat_eq_of_postgres bitwise)
    · exact Nat.not_le.mpr (Precedences.rank_bitNot_lt_of_postgres number)
        (keepsLeft bare _ ends)
  · intro fine
    constructor
    · intro bare earlier member
      obtain ⟨root, found, within, below⟩ := exists_root_of_left bare member
      refine (Precedences.rank_le_of_postgres
        (Nat.le_trans within below)).resolve_right ?_
      rintro ⟨number, rfl⟩
      exact fine (.inr ⟨number, bare, member⟩)
    · intro bare later member
      obtain ⟨root, found, within, below⟩ := exists_root_of_right bare member
      refine (Precedences.rank_lt_of_postgres
        (Nat.lt_of_lt_of_le within below)).resolve_right ?_
      rintro ⟨bitwise, rfl⟩
      have level := BinaryOperator.precedence_of_bitwise bitwise
      have same : root.precedence = 6 := by
        rw [level] at within
        exact Nat.le_antisymm below within
      exact fine (.inl ⟨bitwise, found.trans
        (congrArg some (Operator.eq_concat_of_precedence same))⟩)

end Expr

/-! ## What the databases keep -/

theorem Dialect.spells_plain_sqlite :
    Dialect.sqlite.Spells Keyword.IsPlain where
  operator := by
    intro operator
    rcases operator with operator | operator <;> cases operator <;> decide
  clause := by decide

/-- SQLite, for an expression without `#`, and PostgreSQL group what is written
for an expression like its tree, exactly if none of its operators is regrouped.
A sub-query counts as an operand; what stands in it is written for expressions
of its own. -/
theorem Expr.keeps_iff (context : Context) (expr : Expr)
    (completes : (expr.script context).Completes) :
    (context.dialect = .sqlite → .binary .xor ∉ expr.operators →
      (Precedences.sqlite.Keeps context expr ↔
        ¬ expr.HasBinary RegroupedBySqlite)) ∧
    (context.dialect = .postgres →
      (Precedences.postgres.Keeps context expr ↔
        ¬ expr.HasBinary RegroupedByPostgres)) := by
  constructor
  · intro spelling known
    have all : ∀ operator ∈ expr.operators, operator ≠ .binary .xor := by
      rintro operator member rfl
      exact known member
    exact Precedences.keeps_iff_not_hasBinary (· ≠ .binary .xor)
      Dialect.spells_plain_sqlite Precedences.knows_of_sqlite
      Precedences.unary_rank_lt_of_sqlite keeps_iff_not_regroupedBySqlite
      spelling all completes
  · intro spelling
    exact Precedences.keeps_iff_not_hasBinary (fun _ => True)
      (Dialect.spells_plain rfl)
      (fun _ => Precedences.knows_of_postgres _)
      Precedences.unary_rank_lt_of_postgres
      (fun _ _ => keeps_iff_not_regroupedByPostgres)
      spelling (fun _ _ => trivial) completes

/-- The sum of 1 and 2, and 3 on the other side of an operator. -/
def Expr.summed (operator : BinaryOperator) : Expr :=
  combine operator
    (combine .add (.value (.int 1)) (.value (.int 2))) (.value (.int 3))

/-- The bits of 1 inverted, and 2 on the other side of an operator. -/
def Expr.inverted (operator : BinaryOperator) : Expr :=
  combine operator (apply .bitNot (.value (.int 1))) (.value (.int 2))

/-- SQLite keeps `1 + 2 = 3`, and PostgreSQL keeps `~1 || 2`. -/
theorem Expr.keeps_iff_summed :
    Precedences.sqlite.Keeps (.outermost .sqlite none) (summed .eq) ∧
      Precedences.postgres.Keeps (.outermost .postgres none)
        (inverted .concat) := by
  have sqlite := keeps_iff (.outermost .sqlite none) (summed .eq) rfl
  have postgres :=
    keeps_iff (.outermost .postgres none) (inverted .concat) rfl
  constructor
  · exact (sqlite.1 rfl (by decide)).mpr (by decide)
  · exact (postgres.2 rfl).mpr (by decide)

/-- To SQLite `1 + 2 || 3` is `1 + (2 || 3)`. -/
theorem Precedences.sqlite_reads_summed :
    sqlite.Reads
      [.parameter (.int 1), .keyword (.between "+"), .parameter (.int 2),
        .keyword (.between "||"), .parameter (.int 3)]
      (.binary (.between "+") (.operand [.parameter (.int 1)])
        (.binary (.between "||") (.operand [.parameter (.int 2)])
          (.operand [.parameter (.int 3)]))) := by
  refine ⟨.binary (.between "+") (.single [.parameter (.int 1)])
    (.binary (.between "||") (.single [.parameter (.int 2)])
      (.single [.parameter (.int 3)])), ?_, ?_, rfl, rfl⟩
  · exact ⟨by decide, .placeholder _, by decide, .placeholder _,
      .placeholder _⟩
  · exact ⟨by decide, by decide, trivial, by decide, by decide, trivial,
      trivial⟩

/-- To PostgreSQL `~1 + 2` is `~(1 + 2)`. -/
theorem Precedences.postgres_reads_inverted :
    postgres.Reads
      [.keyword (.bare "~"), .parameter (.int 1), .keyword (.between "+"),
        .parameter (.int 2)]
      (.unary (.bare "~")
        (.binary (.between "+") (.operand [.parameter (.int 1)])
          (.operand [.parameter (.int 2)]))) := by
  refine ⟨.unary (.bare "~") (.binary (.between "+")
    (.single [.parameter (.int 1)]) (.single [.parameter (.int 2)])), ?_, ?_,
    rfl, rfl⟩
  · exact ⟨by decide, by decide, .placeholder _, .placeholder _⟩
  · exact ⟨by decide, by decide, by decide, trivial, trivial⟩

/-- Neither database keeps every expression: `(1 + 2) || 3` and `(~1) + 2` are
written without parentheses. -/
theorem Expr.not_keeps :
    (.binary .xor ∉ (summed .concat).operators ∧
      ((summed .concat).script (.outermost .sqlite none)).Completes ∧
      ¬ Precedences.sqlite.Keeps (.outermost .sqlite none)
        (summed .concat)) ∧
    ((inverted .add).script (.outermost .postgres none)).Completes ∧
      ¬ Precedences.postgres.Keeps (.outermost .postgres none)
        (inverted .add) := by
  refine ⟨⟨by decide, rfl, ?_⟩, rfl, ?_⟩
  · intro keeps
    have same := Reading.binary.inj
      ((keeps _).mp Precedences.sqlite_reads_summed)
    exact absurd same.1 (by decide)
  · intro keeps
    cases (keeps _).mp Precedences.postgres_reads_inverted

end SqlWeave
