import SqlWeave.Proofs.Folding.NormalForm
import SqlWeave.Proofs.Script.Scope

/-!
# Folding and three-valued logic

A condition is true, false or unknown, as a comparison with null is.  Conditions
are folded while they are built: constants disappear under `AND`, `OR` and
`NOT`, and one `NOT` cancels another.  This module shows that what is built has
the value of what was asked for, whatever the values of its parts are, and that
folding leaves a constant exactly where no part matters
(`Formula.truth_expr_eq`).
-/

namespace SqlWeave

/-- The truth values of a condition. -/
inductive Truth where
  | false
  | unknown
  | true
  deriving DecidableEq, Repr

namespace Truth

/-- The truth value of a boolean constant. -/
def ofBool : Bool → Truth
  | .false => .false
  | .true => .true

/-- A conjunction is false if a side is, and true if both sides are. -/
protected def and : Truth → Truth → Truth
  | .false, _ => .false
  | _, .false => .false
  | .true, .true => .true
  | _, _ => .unknown

/-- A disjunction is true if a side is, and false if both sides are. -/
protected def or : Truth → Truth → Truth
  | .true, _ => .true
  | _, .true => .true
  | .false, .false => .false
  | _, _ => .unknown

/-- A negation is unknown if its operand is. -/
protected def not : Truth → Truth
  | .false => .true
  | .unknown => .unknown
  | .true => .false

/-! ## Laws that folding rests on -/

@[simp] theorem true_and (value : Truth) : Truth.true.and value = value := by
  cases value <;> rfl

@[simp] theorem and_true (value : Truth) : value.and .true = value := by
  cases value <;> rfl

@[simp] theorem false_and (value : Truth) : Truth.false.and value = .false :=
  rfl

@[simp] theorem and_false (value : Truth) : value.and .false = .false := by
  cases value <;> rfl

@[simp] theorem true_or (value : Truth) : Truth.true.or value = .true := rfl

@[simp] theorem or_true (value : Truth) : value.or .true = .true := by
  cases value <;> rfl

@[simp] theorem false_or (value : Truth) : Truth.false.or value = value := by
  cases value <;> rfl

@[simp] theorem or_false (value : Truth) : value.or .false = value := by
  cases value <;> rfl

@[simp] theorem not_not (value : Truth) : value.not.not = value := by
  cases value <;> rfl

theorem not_eq_unknown_iff (value : Truth) :
    value.not = .unknown ↔ value = .unknown := by
  cases value <;> decide

theorem ofBool_and (left right : Bool) :
    ofBool (left && right) = (ofBool left).and (ofBool right) := by
  cases left <;> cases right <;> rfl

theorem ofBool_or (left right : Bool) :
    ofBool (left || right) = (ofBool left).or (ofBool right) := by
  cases left <;> cases right <;> rfl

theorem ofBool_not (constant : Bool) :
    ofBool (!constant) = (ofBool constant).not := by
  cases constant <;> rfl

theorem ofBool_injective {left right : Bool}
    (equal : ofBool left = ofBool right) : left = right := by
  cases left <;> cases right <;> first | rfl | cases equal

theorem ofBool_ne_unknown (constant : Bool) : ofBool constant ≠ .unknown := by
  cases constant <;> decide

end Truth

/-! ## The value of an expression -/

namespace Expr

/-- The truth value of an expression.  `assignment` tells those of its atoms:
of whatever is neither a boolean constant nor an `AND`, `OR` or `NOT`. -/
def truth (assignment : Expr → Truth) : Expr → Truth
  | value (.bool constant) => Truth.ofBool constant
  | unary .not operand => (operand.truth assignment).not
  | binary .and left right =>
      (left.truth assignment).and (right.truth assignment)
  | binary .or left right =>
      (left.truth assignment).or (right.truth assignment)
  | atom => assignment atom

/-- The expression is neither a boolean constant nor an `AND`, `OR` or `NOT`. -/
def IsAtom : Expr → Prop
  | value (.bool _) => False
  | unary .not _ => False
  | binary .and _ _ => False
  | binary .or _ _ => False
  | _ => True

variable (assignment : Expr → Truth)

@[simp] theorem truth_ofBool (constant : Bool) :
    (ofBool constant).truth assignment = Truth.ofBool constant := rfl

theorem truth_of_isAtom {expr : Expr} (atom : expr.IsAtom) :
    expr.truth assignment = assignment expr := by
  unfold truth
  split <;> first | exact atom.elim | rfl

/-- An expression that is a boolean constant has its value. -/
theorem truth_of_asBool? {expr : Expr} {constant : Bool}
    (held : expr.asBool? = some constant) :
    expr.truth assignment = Truth.ofBool constant := by
  rw [eq_ofBool_of_asBool? held, truth_ofBool]

/-! ## What folding does to the value -/

theorem truth_both (left right : Expr) :
    (left.both right).truth assignment =
      (left.truth assignment).and (right.truth assignment) := by
  rcases both_cases left right with ⟨constant, held, result⟩ |
    ⟨constant, held, result⟩ | ⟨_, _, result⟩
  · rw [result, truth_of_asBool? assignment held]
    cases constant <;> simp [Truth.ofBool]
  · rw [result, truth_of_asBool? assignment held]
    cases constant <;> simp [Truth.ofBool]
  · rw [result]
    rfl

theorem truth_either (left right : Expr) :
    (left.either right).truth assignment =
      (left.truth assignment).or (right.truth assignment) := by
  rcases either_cases left right with ⟨constant, held, result⟩ |
    ⟨constant, held, result⟩ | ⟨_, _, result⟩
  · rw [result, truth_of_asBool? assignment held]
    cases constant <;> simp [Truth.ofBool]
  · rw [result, truth_of_asBool? assignment held]
    cases constant <;> simp [Truth.ofBool]
  · rw [result]
    rfl

theorem truth_negate (operand : Expr) :
    operand.negate.truth assignment = (operand.truth assignment).not := by
  rcases negate_cases operand with ⟨inner, shape, result⟩ |
    ⟨constant, held, result⟩ | ⟨_, _, result⟩
  · rw [result, shape, truth, Truth.not_not]
  · rw [result, truth_of_asBool? assignment held, truth_ofBool,
      Truth.ofBool_not]
  · rw [result]
    rfl

/-! ## Conditions without a value of their own -/

/-- If nothing is known of the atoms, then only a constant has a value. -/
def Settled (expr : Expr) : Prop :=
  expr.truth (fun _ => .unknown) =
    (expr.asBool?.map Truth.ofBool).getD .unknown

theorem settled_ofBool (constant : Bool) : Settled (ofBool constant) := rfl

theorem settled_of_isAtom {expr : Expr} (atom : expr.IsAtom) :
    Settled expr := by
  have varies : expr.asBool? = none := by
    unfold asBool?
    split
    · exact atom.elim
    · rfl
  rw [Settled, truth_of_isAtom _ atom, varies]
  rfl

namespace Settled

variable {left right operand : Expr}

theorem truth_of_asBool?_eq_none (settled : operand.Settled)
    (varies : operand.asBool? = none) :
    operand.truth (fun _ => .unknown) = .unknown := by
  rw [settled, varies]
  rfl

theorem both (first : left.Settled) (second : right.Settled) :
    (left.both right).Settled := by
  rcases both_cases left right with ⟨constant, _, result⟩ |
    ⟨constant, _, result⟩ | ⟨varies, varies', result⟩
  · rw [result]
    cases constant with
    | true => exact second
    | false => exact settled_ofBool _
  · rw [result]
    cases constant with
    | true => exact first
    | false => exact settled_ofBool _
  · rw [result, Settled, truth, first.truth_of_asBool?_eq_none varies,
      second.truth_of_asBool?_eq_none varies']
    rfl

theorem either (first : left.Settled) (second : right.Settled) :
    (left.either right).Settled := by
  rcases either_cases left right with ⟨constant, _, result⟩ |
    ⟨constant, _, result⟩ | ⟨varies, varies', result⟩
  · rw [result]
    cases constant with
    | true => exact settled_ofBool _
    | false => exact second
  · rw [result]
    cases constant with
    | true => exact settled_ofBool _
    | false => exact first
  · rw [result, Settled, truth, first.truth_of_asBool?_eq_none varies,
      second.truth_of_asBool?_eq_none varies']
    rfl

theorem negate (inner : operand.Settled) : operand.negate.Settled := by
  rcases negate_cases operand with ⟨cancelled, shape, result⟩ |
    ⟨constant, _, result⟩ | ⟨varies, _, result⟩
  · -- The cancelled `NOT` was no constant, so its operand has no value either.
    rw [result]
    have unknown := inner.truth_of_asBool?_eq_none (by rw [shape]; rfl)
    rw [shape, truth, Truth.not_eq_unknown_iff] at unknown
    rw [Settled, unknown]
    cases held : cancelled.asBool? with
    | none => rfl
    | some constant =>
        rw [truth_of_asBool? _ held] at unknown
        exact absurd unknown (Truth.ofBool_ne_unknown constant)
  · rw [result]
    exact settled_ofBool _
  · rw [result, Settled, truth, inner.truth_of_asBool?_eq_none varies]
    rfl

end Settled

end Expr

/-! ## Conditions that are asked for -/

/-- An expression that folding does not look into. -/
structure Atom where
  expr : Expr
  isAtom : expr.IsAtom

/-- A condition as it is asked for, before anything of it is folded. -/
inductive Formula where
  | atom (atom : Atom)
  | constant (constant : Bool)
  | both (left right : Formula)
  | either (left right : Formula)
  | negate (operand : Formula)

namespace Formula

/-- The expression that is built for the condition. -/
def expr : Formula → Expr
  | atom leaf => leaf.expr
  | constant held => Expr.ofBool held
  | both left right => left.expr.both right.expr
  | either left right => left.expr.either right.expr
  | negate operand => operand.expr.negate

/-- The truth value of the condition. -/
def truth (assignment : Expr → Truth) : Formula → Truth
  | atom leaf => assignment leaf.expr
  | constant held => Truth.ofBool held
  | both left right => (left.truth assignment).and (right.truth assignment)
  | either left right => (left.truth assignment).or (right.truth assignment)
  | negate operand => (operand.truth assignment).not

/-- The atoms of the condition. -/
def atoms : Formula → List Atom
  | atom leaf => [leaf]
  | constant _ => []
  | both left right => left.atoms ++ right.atoms
  | either left right => left.atoms ++ right.atoms
  | negate operand => operand.atoms

/-- Folding keeps the value. -/
theorem truth_expr (formula : Formula) (assignment : Expr → Truth) :
    formula.expr.truth assignment = formula.truth assignment := by
  induction formula with
  | atom leaf => exact Expr.truth_of_isAtom assignment leaf.isAtom
  | constant held => rfl
  | both left right leftIH rightIH =>
      rw [expr, truth, Expr.truth_both, leftIH, rightIH]
  | either left right leftIH rightIH =>
      rw [expr, truth, Expr.truth_either, leftIH, rightIH]
  | negate operand ih => rw [expr, truth, Expr.truth_negate, ih]

theorem settled (formula : Formula) : formula.expr.Settled := by
  induction formula with
  | atom leaf => exact Expr.settled_of_isAtom leaf.isAtom
  | constant held => exact Expr.settled_ofBool held
  | both left right leftIH rightIH => exact leftIH.both rightIH
  | either left right leftIH rightIH => exact leftIH.either rightIH
  | negate operand ih => exact ih.negate

/-- Folding leaves a constant exactly if the value of no atom matters. -/
theorem expr_eq_ofBool_iff (formula : Formula) (constant : Bool) :
    formula.expr = Expr.ofBool constant ↔
      ∀ assignment, formula.truth assignment = Truth.ofBool constant := by
  constructor
  · intro folded assignment
    rw [← truth_expr, folded, Expr.truth_ofBool]
  · intro same
    have value := formula.settled
    rw [Expr.Settled, truth_expr, same] at value
    cases held : formula.expr.asBool? with
    | none =>
        rw [held] at value
        exact absurd value (Truth.ofBool_ne_unknown constant)
    | some other =>
        rw [held] at value
        rw [Truth.ofBool_injective value]
        exact Expr.eq_ofBool_of_asBool? held

/-- Without atoms the value is that of a constant. -/
theorem exists_truth_eq_ofBool {formula : Formula}
    (closed : formula.atoms = []) :
    ∃ constant, ∀ assignment,
      formula.truth assignment = Truth.ofBool constant := by
  induction formula with
  | atom leaf => cases closed
  | constant held => exact ⟨held, fun _ => rfl⟩
  | both left right leftIH rightIH =>
      rw [atoms, List.append_eq_nil_iff] at closed
      obtain ⟨first, firstEq⟩ := leftIH closed.1
      obtain ⟨second, secondEq⟩ := rightIH closed.2
      refine ⟨first && second, ?_⟩
      intro assignment
      rw [truth, firstEq, secondEq, Truth.ofBool_and]
  | either left right leftIH rightIH =>
      rw [atoms, List.append_eq_nil_iff] at closed
      obtain ⟨first, firstEq⟩ := leftIH closed.1
      obtain ⟨second, secondEq⟩ := rightIH closed.2
      refine ⟨first || second, ?_⟩
      intro assignment
      rw [truth, firstEq, secondEq, Truth.ofBool_or]
  | negate operand ih =>
      obtain ⟨constant, constantEq⟩ := ih closed
      refine ⟨!constant, ?_⟩
      intro assignment
      rw [truth, constantEq, Truth.ofBool_not]

/-- What is built for a condition has its value under every assignment, and is a
constant exactly if the assignment does not matter, as it does not for
a condition without atoms. -/
theorem truth_expr_eq (formula : Formula) :
    (∀ assignment,
      formula.expr.truth assignment = formula.truth assignment) ∧
    (∀ constant, formula.expr = Expr.ofBool constant ↔
      ∀ assignment, formula.truth assignment = Truth.ofBool constant) ∧
    (formula.atoms = [] → ∃ constant, formula.expr = Expr.ofBool constant) := by
  refine ⟨formula.truth_expr, formula.expr_eq_ofBool_iff, ?_⟩
  intro closed
  obtain ⟨constant, same⟩ := exists_truth_eq_ofBool closed
  exact ⟨constant, (formula.expr_eq_ofBool_iff constant).mpr same⟩

/-- `NOT (TRUE AND (FALSE OR NOT TRUE))` -/
def constants : Formula :=
  .negate (.both (.constant true)
    (.either (.constant false) (.negate (.constant true))))

/-- The constant is true. -/
theorem truth_expr_eq_constants :
    constants.atoms = [] ∧
      (∃ constant, constants.expr = Expr.ofBool constant) ∧
      constants.expr = Expr.ofBool true := by
  refine ⟨rfl, constants.truth_expr_eq.2.2 rfl, ?_⟩
  apply (constants.truth_expr_eq.2.1 true).mpr
  intro assignment
  rfl

end Formula

end SqlWeave
