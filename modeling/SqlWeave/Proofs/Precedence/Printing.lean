import Mathlib.Data.List.Nodup
import SqlWeave.Dialect.Presets
import SqlWeave.Proofs.Precedence.Grammar
import SqlWeave.Proofs.Script.Formation
import SqlWeave.Proofs.Script.Scope
import SqlWeave.Query.Select

/-!
# Reading expressions back

An expression is written with as few parentheses as its operators allow.  This
module shows that they are enough: in the usual spelling, what is written for
an expression can be read as the tree of its operators, and as nothing else
(`Expr.reads_script_iff`).  That it can be read so is an induction on the
expression, with one law of `needsParens` for each place of an operand; that
there is no other reading holds of every grammar of operators.
-/

namespace SqlWeave

/-! ## Spellings -/

/-- The binary operators. -/
def BinaryOperator.all : List BinaryOperator :=
  [.and, .or, .add, .sub, .mul, .div, .mod, .bitAnd, .bitOr, .xor, .eq, .ne,
    .lt, .le, .gt, .ge, .isIn, .notIn, .is, .isNot, .like, .ilike, .concat]

theorem BinaryOperator.mem_all (operator : BinaryOperator) :
    operator ∈ all := by
  cases operator <;> decide

theorem BinaryOperator.nodup_keywords : (all.map keyword).Nodup := by decide

theorem BinaryOperator.keyword_injective {left right : BinaryOperator}
    (equal : left.keyword = right.keyword) : left = right :=
  List.inj_on_of_nodup_map nodup_keywords left.mem_all right.mem_all equal

theorem UnaryOperator.keyword_injective {left right : UnaryOperator}
    (equal : left.keyword = right.keyword) : left = right := by
  cases left <;> cases right <;>
    simp_all [keyword, Keyword.leading, Keyword.bare]

theorem BinaryOperator.spaceBefore_keyword (operator : BinaryOperator) :
    operator.keyword.spaceBefore = true := by
  cases operator <;> rfl

theorem UnaryOperator.spaceBefore_keyword (operator : UnaryOperator) :
    operator.keyword.spaceBefore = false := by
  cases operator <;> rfl

theorem Keyword.IsReserved.spaceBefore_eq {word : Keyword}
    (reserved : word.IsReserved) : word.spaceBefore = false := by
  simp only [Keyword.IsReserved, List.mem_cons, List.not_mem_nil, or_false]
    at reserved
  rcases reserved with rfl | rfl | rfl | rfl | rfl <;> rfl

theorem UnaryOperator.keyword_ne (unary : UnaryOperator)
    (binary : BinaryOperator) : unary.keyword ≠ binary.keyword := by
  intro equal
  have spaces := congrArg Keyword.spaceBefore equal
  rw [unary.spaceBefore_keyword, binary.spaceBefore_keyword] at spaces
  cases spaces

theorem BinaryOperator.not_isReserved (operator : BinaryOperator) :
    ¬ operator.keyword.IsReserved := by
  intro reserved
  have spaces := reserved.spaceBefore_eq
  rw [operator.spaceBefore_keyword] at spaces
  cases spaces

theorem UnaryOperator.not_isReserved (operator : UnaryOperator) :
    ¬ operator.keyword.IsReserved := by
  cases operator <;> decide

/-- No unary operator binds exactly as tightly as a binary one. -/
theorem Operator.precedence_ne (unary : UnaryOperator)
    (binary : BinaryOperator) :
    (Operator.unary unary).precedence ≠ (Operator.binary binary).precedence := by
  cases unary <;> cases binary <;> decide

/-- The grammar of the operators in their usual spelling. -/
def standardGrammar : Grammar UnaryOperator BinaryOperator where
  unaryWord := UnaryOperator.keyword
  binaryWord := BinaryOperator.keyword
  unaryLevel operator := (Operator.unary operator).precedence
  binaryLevel operator := (Operator.binary operator).precedence
  chains operator := (Operator.binary operator).associativity == .left
  unaryWord_injective := UnaryOperator.keyword_injective
  binaryWord_injective := BinaryOperator.keyword_injective
  words_differ := UnaryOperator.keyword_ne
  levels_differ := Operator.precedence_ne
  unaryWord_free := UnaryOperator.not_isReserved
  binaryWord_free := BinaryOperator.not_isReserved

/-! ## Parentheses around operands -/

namespace Operator

/-- An operand without parentheses binds at least as tightly as the unary
operator in front of it. -/
theorem le_precedence_of_unary {parent : UnaryOperator} {child : Operator}
    (bare : needsParens (.unary parent) child false = false) :
    standardGrammar.unaryLevel parent ≤ child.precedence := by
  simp only [needsParens, isUnary, if_true, Bool.or_eq_false_iff,
    decide_eq_false_iff_not, Nat.not_lt] at bare
  exact bare.1

/-- A left operand without parentheses binds tightly enough for its place. -/
theorem leftLevel_le_precedence {parent : BinaryOperator} {child : Operator}
    (bare : needsParens (.binary parent) child false = false) :
    standardGrammar.leftLevel parent ≤ child.precedence := by
  simp only [needsParens, isUnary, Bool.false_eq_true, if_false,
    Bool.false_or] at bare
  split at bare
  · next differ =>
      have tighter : (Operator.binary parent).precedence < child.precedence :=
        Nat.lt_of_le_of_ne (Nat.not_lt.mp (of_decide_eq_false bare))
          (Ne.symm differ)
      exact Nat.le_trans (standardGrammar.leftLevel_le_succ parent) tighter
  · next same =>
      have chains : standardGrammar.chains parent = true := by
        cases kind : (Operator.binary parent).associativity with
        | left => exact beq_iff_eq.mpr kind
        | none =>
            rw [kind] at bare
            cases bare
      rw [standardGrammar.leftLevel_of_chains chains]
      exact Nat.le_of_eq (Decidable.of_not_not same).symm

/-- A right operand without parentheses binds tighter than its operator. -/
theorem lt_precedence_of_right {parent : BinaryOperator} {child : Operator}
    (bare : needsParens (.binary parent) child true = false) :
    standardGrammar.binaryLevel parent < child.precedence := by
  simp only [needsParens, isUnary, Bool.false_eq_true, if_false,
    Bool.true_or] at bare
  split at bare
  · next differ =>
      exact Nat.lt_of_le_of_ne (Nat.not_lt.mp (of_decide_eq_false bare))
        (Ne.symm differ)
  · cases bare

end Operator

/-! ## Readings of expressions -/

/-- The tree of operators of an expression.  Its leaves are what is written for
constants, columns and sub-queries. -/
def Expr.reading (context : Context) :
    Expr → Reading UnaryOperator BinaryOperator
  | .unary operator operand => .unary operator (operand.reading context)
  | .binary operator left right =>
      .binary operator (left.reading context) (right.reading context)
  | leaf => .operand (Script.fragments (leaf.script context))

theorem Dialect.operatorKeyword_of_standard {dialect : Dialect}
    (standard : dialect.operators = []) (operator : Operator) :
    dialect.operatorKeyword operator = operator.keyword := by
  rw [operatorKeyword, standard]
  rfl

theorem Operator.keyword_isPlain (operator : Operator) :
    operator.keyword.IsPlain := by
  cases operator with
  | unary operator => cases operator <;> decide
  | binary operator => cases operator <;> decide

/-- Apart from parentheses around a whole script, the usual spelling has none. -/
theorem Dialect.spells_plain {dialect : Dialect}
    (standard : dialect.operators = []) : dialect.Spells Keyword.IsPlain where
  operator := fun operator => by
    rw [operatorKeyword_of_standard standard]
    exact operator.keyword_isPlain
  clause := by decide

variable {context : Context}

theorem Value.boundScript_of_completes {value : Value}
    (completes : value.boundScript.Completes) :
    value.boundScript = Script.parameter value := by
  cases value with
  | list items => exact absurd completes (Script.not_completes_fail _)
  | _ => rfl

theorem Script.fragments_commaSeparated_parameter (values : List Value) :
    fragments (commaSeparated (values.map parameter)) =
      Fragment.placeholders values := by
  induction values with
  | nil => rfl
  | cons value rest ih =>
      cases rest with
      | nil => rfl
      | cons next others =>
          show .parameter value :: .keyword .comma ::
            fragments (commaSeparated ((next :: others).map parameter)) = _
          rw [ih]
          rfl

theorem Value.isOperand_listScript {items : List Value}
    (completes : (listScript items).Completes) :
    IsOperand (Script.fragments (listScript items)) := by
  cases items with
  | nil => exact absurd completes (Script.not_completes_fail _)
  | cons item rest =>
      have within : (Script.commaSeparated
          ((item :: rest).map boundScript)).Completes :=
        (Script.completes_parens _).mp completes
      have each : ∀ value ∈ item :: rest,
          value.boundScript = Script.parameter value := by
        intro value member
        apply boundScript_of_completes
        exact (Script.completes_commaSeparated _).mp within _
          (List.mem_map_of_mem member)
      have written : Script.fragments (Script.commaSeparated
          ((item :: rest).map boundScript)) =
            Fragment.placeholders (item :: rest) := by
        rw [List.map_congr_left each,
          Script.fragments_commaSeparated_parameter]
      show IsOperand (Script.fragments (Script.parens _))
      rw [within.fragments_parens, written]
      exact .list (item :: rest) (List.cons_ne_nil _ _)

/-- A constant is written as a single operand. -/
theorem Value.isOperand_script {constant : Value}
    (completes : constant.script.Completes) :
    IsOperand (Script.fragments constant.script) := by
  cases constant with
  | null => exact .null
  | list items => exact isOperand_listScript completes
  | _ => exact .placeholder _

/-- A column is written as a name. -/
theorem Field.exists_fragments_eq {field : Field}
    (completes : (field.script context).Completes) :
    ∃ path, Script.fragments (field.script context) = [.name path] := by
  obtain ⟨path, written⟩ := exists_path completes
  rw [written]
  exact ⟨path, rfl⟩

theorem Field.isOperand_script {field : Field}
    (completes : (field.script context).Completes) :
    IsOperand (Script.fragments (field.script context)) := by
  obtain ⟨path, written⟩ := exists_fragments_eq completes
  rw [written]
  exact .column path

/-- A sub-query is written as a single operand, if no keyword of the dialect is
a parenthesis. -/
theorem Select.isOperand_parens_of_plain
    (plain : context.dialect.Spells Keyword.IsPlain) {select : Select}
    (completes : (select.script context).Completes) :
    IsOperand (Script.fragments (select.script context).parens) := by
  have formed := Select.script_formed context plain select
  have nested := formed.nested (fun _ plain => plain) completes
  obtain ⟨body, begins⟩ := Select.fragments_eq_cons completes
  rw [completes.fragments_parens, begins]
  rw [begins] at nested
  exact .query body ((Fragment.Nested.cons_iff rfl rfl body).mp nested)

theorem Select.isOperand_parens (standard : context.dialect.operators = [])
    {select : Select} (completes : (select.script context).Completes) :
    IsOperand (Script.fragments (select.script context).parens) :=
  isOperand_parens_of_plain (Dialect.spells_plain standard) completes

namespace Expr

theorem isOperation_reading {expr : Expr} {operator : Operator}
    (root : expr.root? = some operator) :
    (expr.reading context).isOperation := by
  cases expr with
  | unary operator operand => rfl
  | binary operator left right => rfl
  | value constant => cases root
  | field field => cases root
  | query select => cases root

/-- The operator at the root, if there is one, binds at least as tightly as
`level`. -/
def BindsFrom (level : Nat) (expr : Expr) : Prop :=
  ∀ operator, expr.root? = some operator → level ≤ operator.precedence

theorem bindsFrom_zero (expr : Expr) : BindsFrom 0 expr :=
  fun _ _ => Nat.zero_le _

/-- An operand is written as `level` asks for, if it is without parentheses
only where it binds from `level` on. -/
theorem reads_operand {level : Nat} {operand : Expr} {parent : Operator}
    {onRight : Bool}
    (bare : ∀ child, parent.needsParens child onRight = false →
      level ≤ child.precedence)
    (completes : (operand.script context).Completes)
    (reads : ∀ inner, operand.BindsFrom inner →
      standardGrammar.Reads inner (Script.fragments (operand.script context))
        (operand.reading context)) :
    standardGrammar.Reads level
      (Script.fragments (Script.parensIf
        (operand.wrapped parent onRight) (operand.script context)))
      (operand.reading context) := by
  cases wrapped : operand.wrapped parent onRight with
  | false =>
      refine reads level fun child root => bare child ?_
      rw [Expr.wrapped, root] at wrapped
      exact wrapped
  | true =>
      show standardGrammar.Reads level (Script.fragments (Script.parens _)) _
      rw [completes.fragments_parens]
      refine .group (reads 0 operand.bindsFrom_zero) ?_
      rw [Expr.wrapped] at wrapped
      cases root : operand.root? with
      | none =>
          rw [root] at wrapped
          cases wrapped
      | some child => exact isOperation_reading root

theorem operatorScript_of_standard (standard : context.dialect.operators = [])
    (operator : Operator) :
    operator.script context = Script.keyword operator.keyword := by
  rw [Operator.script, Dialect.operatorKeyword_of_standard standard]

/-- What is written for an expression can be read as its tree. -/
theorem reads_script (standard : context.dialect.operators = []) :
    (expr : Expr) → (expr.script context).Completes → (level : Nat) →
      expr.BindsFrom level →
      standardGrammar.Reads level (Script.fragments (expr.script context))
        (expr.reading context)
  | .value constant, completes, _, _ =>
      .operand (Value.isOperand_script completes)
  | .field column, completes, _, _ =>
      .operand (Field.isOperand_script completes)
  | .query select, completes, _, _ =>
      .operand (Select.isOperand_parens standard
        ((Script.completes_parens _).mp completes))
  | .unary operator operand, completes, level, binds => by
      rw [Expr.script, operatorScript_of_standard standard] at completes ⊢
      have inner : (operand.script context).Completes := by
        simpa using completes
      rw [(Script.completes_keyword _).fragments_append]
      refine .unary (binds _ rfl) ?_
      exact reads_operand (fun child => Operator.le_precedence_of_unary) inner
        (reads_script standard operand inner)
  | .binary operator left right, completes, level, binds => by
      rw [Expr.script, operatorScript_of_standard standard] at completes ⊢
      obtain ⟨first, second⟩ : (left.script context).Completes ∧
          (right.script context).Completes := by
        simpa using completes
      have before : (Script.parensIf (left.wrapped (.binary operator) false)
          (left.script context)).Completes :=
        (Script.completes_parensIf _ _).mpr first
      rw [List.append_assoc, before.fragments_append,
        (Script.completes_keyword _).fragments_append]
      refine .binary (binds _ rfl) ?_ ?_
      · exact reads_operand (fun child => Operator.leftLevel_le_precedence)
          first (reads_script standard left first)
      · exact reads_operand (fun child => Operator.lt_precedence_of_right)
          second (reads_script standard right second)

/-- In the usual spelling, what is written for an expression has exactly one
reading: the tree of its operators. -/
theorem reads_script_iff (context : Context)
    (standard : context.dialect.operators = []) (expr : Expr)
    (completes : (expr.script context).Completes)
    (reading : Reading UnaryOperator BinaryOperator) :
    standardGrammar.Reads 0 (Script.fragments (expr.script context)) reading ↔
      reading = expr.reading context := by
  have own := reads_script standard expr completes 0 expr.bindsFrom_zero
  constructor
  · intro other
    exact other.unique own
  · intro equal
    rw [equal]
    exact own

/-- An expression with operators of both kinds on both sides of others. -/
def crowded : Expr :=
  .binary .eq
    (.binary .sub (.value (.int 1))
      (.binary .sub (.value (.int 2)) (.unary .bitNot (.value (.int 3)))))
    (.unary .not (.binary .isIn (.value .null)
      (.query ((Select.ofItems []).selectFrom
        (.source (.table ⟨⟨1⟩, none, "person", []⟩))))))

/-- `? - (? - ~?) = (NOT NULL IN (SELECT * FROM "person"))` -/
theorem reads_script_iff_crowded :
    (crowded.script (.outermost .generic none)).Completes ∧
      ∀ reading,
        standardGrammar.Reads 0
          ([.parameter (.int 1), .keyword (.between "-")] ++
            Fragment.enclosed
              [.parameter (.int 2), .keyword (.between "-"),
                .keyword (.bare "~"), .parameter (.int 3)] ++
            .keyword (.between "=") ::
              Fragment.enclosed
                ([.keyword (.leading "NOT"), .keyword .null,
                    .keyword (.between "IN")] ++
                  Fragment.enclosed
                    [.keyword .select, .keyword .allColumns,
                      .keyword .fromSources, .name ⟨["person"]⟩])) reading ↔
          reading = .binary .eq
            (.binary .sub (.operand [.parameter (.int 1)])
              (.binary .sub (.operand [.parameter (.int 2)])
                (.unary .bitNot (.operand [.parameter (.int 3)]))))
            (.unary .not (.binary .isIn (.operand [.keyword .null])
              (.operand (Fragment.enclosed
                [.keyword .select, .keyword .allColumns,
                  .keyword .fromSources, .name ⟨["person"]⟩])))) := by
  have completes :
      (crowded.script (.outermost .generic none)).Completes := rfl
  constructor
  · exact completes
  · exact reads_script_iff (.outermost .generic none) rfl crowded completes

end Expr

end SqlWeave
