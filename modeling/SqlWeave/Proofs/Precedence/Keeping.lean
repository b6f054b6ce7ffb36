import SqlWeave.Proofs.Precedence.Printing
import SqlWeave.Proofs.Precedence.Reader

/-!
# Expressions read by a foreign table of precedences

The parentheses of an expression are written by one table of precedences, and a
database reads them by its own.  It keeps the grouping exactly if its ranks give
every operand without parentheses to the operator that it was written for
(`Precedences.keeps_iff_groupsBy`), so only neighbouring operators have to be
compared, and how tightly these bind in the table of the writer is known from
the missing parentheses.
-/

namespace SqlWeave

/-- How tightly an operator binds in the spelling of a dialect. -/
def Precedences.rank (table : Precedences) (dialect : Dialect)
    (operator : Operator) : Nat :=
  table.level (dialect.operatorKeyword operator)

/-! ## What is written for an expression -/

/-- The tree with its operators as a dialect spells them. -/
def Reading.spelled (dialect : Dialect) :
    Reading UnaryOperator BinaryOperator → Reading Keyword Keyword
  | operand fragments => .operand fragments
  | unary operator inner =>
      .unary (dialect.operatorKeyword (.unary operator))
        (inner.spelled dialect)
  | binary operator left right =>
      .binary (dialect.operatorKeyword (.binary operator))
        (left.spelled dialect) (right.spelled dialect)

/-- The phrase in parentheses, if `wrapped`. -/
def Phrase.groupIf (wrapped : Bool) (phrase : Phrase) : Phrase :=
  if wrapped then .group phrase else phrase

namespace Expr

universe u

/-- Recursion on an expression, its sub-queries apart. -/
@[elab_as_elim]
def operationRec {motive : Expr → Sort u}
    (value : ∀ constant, motive (.value constant))
    (field : ∀ field, motive (.field field))
    (query : ∀ select, motive (.query select))
    (unary : ∀ operator inner, motive inner → motive (.unary operator inner))
    (binary : ∀ operator left right, motive left → motive right →
      motive (.binary operator left right)) : (expr : Expr) → motive expr
  | .value constant => value constant
  | .field held => field held
  | .query select => query select
  | .unary operator inner =>
      unary operator inner (operationRec value field query unary binary inner)
  | .binary operator left right =>
      binary operator left right
        (operationRec value field query unary binary left)
        (operationRec value field query unary binary right)

/-- The phrase that is written for an expression. -/
def phrase (context : Context) : Expr → Phrase
  | .unary operator inner =>
      .unary (context.dialect.operatorKeyword (.unary operator))
        (Phrase.groupIf (inner.wrapped (.unary operator) false)
          (inner.phrase context))
  | .binary operator left right =>
      .binary (context.dialect.operatorKeyword (.binary operator))
        (Phrase.groupIf (left.wrapped (.binary operator) false)
          (left.phrase context))
        (Phrase.groupIf (right.wrapped (.binary operator) true)
          (right.phrase context))
  | leaf => .single (Script.fragments (leaf.script context))

/-- The operators of an expression, those of its sub-queries apart. -/
def operators : Expr → List Operator
  | .unary operator inner => .unary operator :: inner.operators
  | .binary operator left right =>
      .binary operator :: (left.operators ++ right.operators)
  | _ => []

/-- The operators whose left operand begins where the expression begins. -/
def leftEdge : Expr → List BinaryOperator
  | .binary operator left _ =>
      operator ::
        if left.wrapped (.binary operator) false then [] else left.leftEdge
  | _ => []

/-- The operators whose last operand ends where the expression ends. -/
def rightEdge : Expr → List Operator
  | .unary operator inner =>
      .unary operator ::
        if inner.wrapped (.unary operator) false then [] else inner.rightEdge
  | .binary operator _ right =>
      .binary operator ::
        if right.wrapped (.binary operator) true then [] else right.rightEdge
  | _ => []

/-- By these ranks a left operand belongs to its operator: no operator that ends
with the operand binds less, unless there are parentheses. -/
def KeepsLeft (rank : Operator → Nat) (operator : BinaryOperator)
    (left : Expr) : Prop :=
  left.wrapped (.binary operator) false = false →
    ∀ earlier ∈ left.rightEdge, rank (.binary operator) ≤ rank earlier

/-- By these ranks a right operand belongs to its operator. -/
def KeepsRight (rank : Operator → Nat) (operator : BinaryOperator)
    (right : Expr) : Prop :=
  right.wrapped (.binary operator) true = false →
    ∀ later ∈ right.leftEdge, rank (.binary operator) < rank (.binary later)

/-- By these ranks a single operand belongs to its operator. -/
def KeepsInner (rank : Operator → Nat) (operator : UnaryOperator)
    (inner : Expr) : Prop :=
  inner.wrapped (.unary operator) false = false →
    ∀ later ∈ inner.leftEdge, rank (.unary operator) < rank (.binary later)

/-- By these ranks every operand without parentheses belongs to the operator
that it was given to. -/
def GroupsBy (rank : Operator → Nat) : Expr → Prop
  | .unary operator inner =>
      KeepsInner rank operator inner ∧ inner.GroupsBy rank
  | .binary operator left right =>
      KeepsLeft rank operator left ∧ KeepsRight rank operator right ∧
        left.GroupsBy rank ∧ right.GroupsBy rank
  | _ => True

end Expr

namespace Phrase

variable {table : Precedences}

theorem respects_groupIf_iff (wrapped : Bool) (phrase : Phrase) :
    (groupIf wrapped phrase).Respects table ↔ phrase.Respects table := by
  cases wrapped <;> rfl

@[simp] theorem reading_groupIf (wrapped : Bool) (phrase : Phrase) :
    (groupIf wrapped phrase).reading = phrase.reading := by
  cases wrapped <;> rfl

@[simp] theorem leftEdge_groupIf (wrapped : Bool) (phrase : Phrase) :
    (groupIf wrapped phrase).leftEdge =
      if wrapped then [] else phrase.leftEdge := by
  cases wrapped <;> rfl

@[simp] theorem rightEdge_groupIf (wrapped : Bool) (phrase : Phrase) :
    (groupIf wrapped phrase).rightEdge =
      if wrapped then [] else phrase.rightEdge := by
  cases wrapped <;> rfl

end Phrase

namespace Expr

variable {context : Context}

theorem fragments_groupIf {phrase : Phrase} {script : Script}
    (completes : script.Completes)
    (text : phrase.fragments = script.fragments) (wrapped : Bool) :
    (Phrase.groupIf wrapped phrase).fragments =
      (script.parensIf wrapped).fragments := by
  cases wrapped with
  | false => exact text
  | true =>
      rw [Script.parensIf, if_pos rfl, completes.fragments_parens, ← text]
      rfl

/-- The text of the phrase is what is written for the expression. -/
theorem fragments_phrase (expr : Expr)
    (completes : (expr.script context).Completes) :
    (expr.phrase context).fragments =
      Script.fragments (expr.script context) := by
  induction expr using operationRec with
  | value constant => rfl
  | field field => rfl
  | query select => rfl
  | unary operator inner ih =>
      rw [Expr.script] at completes ⊢
      have written : (inner.script context).Completes := by
        simpa using ((Script.completes_append _ _).mp completes).2
      have text := fragments_groupIf written (ih written)
      rw [Operator.script, (Script.completes_keyword _).fragments_append,
        ← text]
      rfl
  | binary operator left right leftIH rightIH =>
      rw [Expr.script] at completes ⊢
      obtain ⟨front, last⟩ := (Script.completes_append _ _).mp completes
      obtain ⟨first, _⟩ := (Script.completes_append _ _).mp front
      rw [front.fragments_append, first.fragments_append, List.append_assoc]
      rw [Script.completes_parensIf] at first last
      rw [← fragments_groupIf first (leftIH first),
        ← fragments_groupIf last (rightIH last)]
      rfl

/-- The phrase without its parentheses is the tree of the expression. -/
theorem reading_phrase (expr : Expr) :
    (expr.phrase context).reading =
      (expr.reading context).spelled context.dialect := by
  induction expr using operationRec with
  | value constant => rfl
  | field field => rfl
  | query select => rfl
  | unary operator inner ih =>
      simp [phrase, reading, Phrase.reading, Reading.spelled, ih]
  | binary operator left right leftIH rightIH =>
      simp [phrase, reading, Phrase.reading, Reading.spelled, leftIH, rightIH]

theorem leftEdge_phrase (expr : Expr) :
    (expr.phrase context).leftEdge =
      expr.leftEdge.map fun operator =>
        context.dialect.operatorKeyword (.binary operator) := by
  induction expr using operationRec with
  | value constant => rfl
  | field field => rfl
  | query select => rfl
  | unary operator inner => rfl
  | binary operator left right leftIH =>
      rw [phrase, leftEdge, Phrase.leftEdge, Phrase.leftEdge_groupIf, leftIH]
      split <;> rfl

theorem rightEdge_phrase (expr : Expr) :
    (expr.phrase context).rightEdge =
      expr.rightEdge.map context.dialect.operatorKeyword := by
  induction expr using operationRec with
  | value constant => rfl
  | field field => rfl
  | query select => rfl
  | unary operator inner ih =>
      rw [phrase, rightEdge, Phrase.rightEdge, Phrase.rightEdge_groupIf, ih]
      split <;> rfl
  | binary operator left right _ rightIH =>
      rw [phrase, rightEdge, Phrase.rightEdge, Phrase.rightEdge_groupIf,
        rightIH]
      split <;> rfl

/-- A condition on the edge of an operand concerns it only without
parentheses. -/
theorem forall_edge_iff {α : Type} (wrapped : Bool) (edge : List α)
    (spell : α → Keyword) (holds : Keyword → Prop) :
    (∀ word ∈ (if wrapped then [] else edge.map spell), holds word) ↔
      (wrapped = false → ∀ operator ∈ edge, holds (spell operator)) := by
  cases wrapped <;> simp

/-- The phrase respects the precedences of a database, if its ranks group the
expression. -/
theorem respects_phrase_iff (table : Precedences) (expr : Expr) :
    (expr.phrase context).Respects table ↔
      expr.GroupsBy (table.rank context.dialect) := by
  induction expr using operationRec with
  | value constant => rfl
  | field field => rfl
  | query select => rfl
  | unary operator inner ih =>
      rw [phrase, Phrase.Respects, GroupsBy, Phrase.respects_groupIf_iff, ih,
        Phrase.leftEdge_groupIf, leftEdge_phrase, forall_edge_iff]
      rfl
  | binary operator left right leftIH rightIH =>
      rw [phrase, Phrase.Respects, GroupsBy, Phrase.respects_groupIf_iff,
        Phrase.respects_groupIf_iff, leftIH, rightIH,
        Phrase.leftEdge_groupIf, Phrase.rightEdge_groupIf, leftEdge_phrase,
        rightEdge_phrase, forall_edge_iff, forall_edge_iff]
      rfl

end Expr

/-- The database has the operator, with as many operands. -/
def Precedences.Knows (table : Precedences) (dialect : Dialect) :
    Operator → Prop
  | .unary operator => table.IsUnary (dialect.operatorKeyword (.unary operator))
  | .binary operator =>
      table.IsBinary (dialect.operatorKeyword (.binary operator))

instance (table : Precedences) (dialect : Dialect) (operator : Operator) :
    Decidable (table.Knows dialect operator) :=
  match operator with
  | .unary _ => inferInstanceAs (Decidable (table.IsUnary _))
  | .binary _ => inferInstanceAs (Decidable (table.IsBinary _))

namespace Expr

variable {context : Context}

theorem isOperation_phrase {expr : Expr} {operator : Operator}
    (root : expr.root? = some operator) :
    (expr.phrase context).reading.isOperation = true := by
  cases expr with
  | unary operator inner => rfl
  | binary operator left right => rfl
  | value constant => cases root
  | field field => cases root
  | query select => cases root

theorem formed_groupIf {table : Precedences} {operand : Expr}
    (formed : (operand.phrase context).Formed table) (parent : Operator)
    (onRight : Bool) :
    (Phrase.groupIf (operand.wrapped parent onRight)
      (operand.phrase context)).Formed table := by
  cases wrapped : operand.wrapped parent onRight with
  | false => exact formed
  | true =>
      refine ⟨?_, formed⟩
      rw [Expr.wrapped] at wrapped
      cases root : operand.root? with
      | none =>
          rw [root] at wrapped
          cases wrapped
      | some child => exact isOperation_phrase root

/-- What is written for an expression is made of operands and of operators that
the database has. -/
theorem formed_phrase {table : Precedences}
    (plain : context.dialect.Spells Keyword.IsPlain) (expr : Expr)
    (known : ∀ operator ∈ expr.operators,
      table.Knows context.dialect operator)
    (completes : (expr.script context).Completes) :
    (expr.phrase context).Formed table := by
  induction expr using operationRec with
  | value constant => exact Value.isOperand_script completes
  | field field => exact Field.isOperand_script completes
  | query select =>
      exact Select.isOperand_parens_of_plain plain
        ((Script.completes_parens _).mp completes)
  | unary operator inner ih =>
      rw [operators, List.forall_mem_cons] at known
      have written : (inner.script context).Completes := by
        simpa [Expr.script] using ((Script.completes_append _ _).mp
          completes).2
      exact ⟨known.1, formed_groupIf (ih known.2 written) _ _⟩
  | binary operator left right leftIH rightIH =>
      rw [operators, List.forall_mem_cons, List.forall_mem_append] at known
      obtain ⟨first, second⟩ : (left.script context).Completes ∧
          (right.script context).Completes := by
        simpa [Expr.script, Operator.script] using completes
      exact ⟨known.1, formed_groupIf (leftIH known.2.1 first) _ _,
        formed_groupIf (rightIH known.2.2 second) _ _⟩

end Expr

/-- What is written for the expression is read as its tree and not in any other
way. -/
def Precedences.Keeps (table : Precedences) (context : Context)
    (expr : Expr) : Prop :=
  ∀ reading, table.Reads (Script.fragments (expr.script context)) reading ↔
    reading = (expr.reading context).spelled context.dialect

/-- A database keeps the grouping of an expression if its ranks ask for it. -/
theorem Precedences.keeps_iff_groupsBy {table : Precedences}
    {context : Context} {expr : Expr}
    (plain : context.dialect.Spells Keyword.IsPlain)
    (known : ∀ operator ∈ expr.operators,
      table.Knows context.dialect operator)
    (completes : (expr.script context).Completes) :
    table.Keeps context expr ↔
      expr.GroupsBy (table.rank context.dialect) := by
  have formed := Expr.formed_phrase plain expr known completes
  have text := expr.fragments_phrase completes
  have tree : (expr.phrase context).reading = _ := expr.reading_phrase
  rw [← expr.respects_phrase_iff table]
  constructor
  · intro keeps
    obtain ⟨phrase, formed', respects, text', tree'⟩ := (keeps _).mpr rfl
    have same := formed'.eq_of_reading formed (tree'.trans tree.symm)
      (text'.trans text.symm)
    rw [← same]
    exact respects
  · intro respects reading
    have own : table.Reads (Script.fragments (expr.script context))
        ((expr.reading context).spelled context.dialect) :=
      ⟨expr.phrase context, formed, respects, text, tree⟩
    constructor
    · exact fun other => other.unique own
    · rintro rfl
      exact own

/-! ## Edges of operands -/

namespace Expr

/-- An operand without parentheses binds from `level` on, and whatever begins or
ends it binds at least as tightly. -/
theorem exists_root_of_bare {parent : Operator} {operand : Expr}
    {onRight : Bool} {level : Nat} {edge : Operator}
    (within : ∀ child, parent.needsParens child onRight = false →
      level ≤ child.precedence)
    (bare : operand.wrapped parent onRight = false)
    (rooted : ∃ root, operand.root? = some root ∧
      root.precedence ≤ edge.precedence) :
    ∃ root, operand.root? = some root ∧ level ≤ root.precedence ∧
      root.precedence ≤ edge.precedence := by
  obtain ⟨root, found, below⟩ := rooted
  rw [Expr.wrapped, found] at bare
  exact ⟨root, found, within root bare, below⟩

theorem root_le_rightEdge (expr : Expr) {edge : Operator}
    (member : edge ∈ expr.rightEdge) :
    ∃ root, expr.root? = some root ∧ root.precedence ≤ edge.precedence := by
  induction expr using operationRec with
  | value constant => cases member
  | field field => cases member
  | query select => cases member
  | unary operator inner ih =>
      refine ⟨_, rfl, ?_⟩
      rcases List.mem_cons.mp member with rfl | inside
      · exact Nat.le_refl _
      · cases bare : inner.wrapped (.unary operator) false with
        | true => simp [bare] at inside
        | false =>
            rw [bare] at inside
            obtain ⟨_, _, within, below⟩ := exists_root_of_bare
              (fun _ => Operator.le_precedence_of_unary) bare (ih inside)
            exact Nat.le_trans within below
  | binary operator left right _ rightIH =>
      refine ⟨_, rfl, ?_⟩
      rcases List.mem_cons.mp member with rfl | inside
      · exact Nat.le_refl _
      · cases bare : right.wrapped (.binary operator) true with
        | true => simp [bare] at inside
        | false =>
            rw [bare] at inside
            obtain ⟨_, _, within, below⟩ := exists_root_of_bare
              (fun _ => Operator.lt_precedence_of_right) bare (rightIH inside)
            exact Nat.le_of_succ_le (Nat.le_trans within below)

theorem root_le_leftEdge (expr : Expr) {edge : BinaryOperator}
    (member : edge ∈ expr.leftEdge) :
    ∃ root, expr.root? = some root ∧
      root.precedence ≤ (Operator.binary edge).precedence := by
  induction expr using operationRec with
  | value constant => cases member
  | field field => cases member
  | query select => cases member
  | unary operator inner => cases member
  | binary operator left right leftIH =>
      refine ⟨_, rfl, ?_⟩
      rcases List.mem_cons.mp member with rfl | inside
      · exact Nat.le_refl _
      · cases bare : left.wrapped (.binary operator) false with
        | true => simp [bare] at inside
        | false =>
            rw [bare] at inside
            obtain ⟨_, _, within, below⟩ := exists_root_of_bare
              (fun _ => Operator.leftLevel_le_precedence) bare (leftIH inside)
            exact Nat.le_trans
              (standardGrammar.binaryLevel_le_leftLevel operator)
              (Nat.le_trans within below)

section Bare

variable {operand : Expr}

theorem exists_root_of_left {operator : BinaryOperator} {edge : Operator}
    (bare : operand.wrapped (.binary operator) false = false)
    (member : edge ∈ operand.rightEdge) :
    ∃ root, operand.root? = some root ∧
      standardGrammar.leftLevel operator ≤ root.precedence ∧
      root.precedence ≤ edge.precedence :=
  exists_root_of_bare (fun _ => Operator.leftLevel_le_precedence) bare
    (operand.root_le_rightEdge member)

theorem exists_root_of_right {operator edge : BinaryOperator}
    (bare : operand.wrapped (.binary operator) true = false)
    (member : edge ∈ operand.leftEdge) :
    ∃ root, operand.root? = some root ∧
      (Operator.binary operator).precedence < root.precedence ∧
      root.precedence ≤ (Operator.binary edge).precedence :=
  exists_root_of_bare (fun _ => Operator.lt_precedence_of_right) bare
    (operand.root_le_leftEdge member)

theorem exists_root_of_inner {operator : UnaryOperator}
    {edge : BinaryOperator}
    (bare : operand.wrapped (.unary operator) false = false)
    (member : edge ∈ operand.leftEdge) :
    ∃ root, operand.root? = some root ∧
      (Operator.unary operator).precedence ≤ root.precedence ∧
      root.precedence ≤ (Operator.binary edge).precedence :=
  exists_root_of_bare (fun _ => Operator.le_precedence_of_unary) bare
    (operand.root_le_leftEdge member)

end Bare

theorem mem_leftEdge_of_root {expr : Expr} {operator : BinaryOperator}
    (root : expr.root? = some (.binary operator)) :
    operator ∈ expr.leftEdge := by
  cases expr with
  | binary other left right =>
      cases root
      exact List.mem_cons_self
  | _ => cases root

theorem mem_rightEdge_of_root {expr : Expr} {operator : Operator}
    (root : expr.root? = some operator) : operator ∈ expr.rightEdge := by
  cases expr with
  | unary other inner =>
      cases root
      exact List.mem_cons_self
  | binary other left right =>
      cases root
      exact List.mem_cons_self
  | _ => cases root

/-! ## Expressions that a table regroups -/

/-- Somewhere outside of its sub-queries the expression has such an operator
between such operands. -/
def HasBinary (wrong : BinaryOperator → Expr → Expr → Prop) : Expr → Prop
  | .unary _ inner => inner.HasBinary wrong
  | .binary operator left right =>
      wrong operator left right ∨ left.HasBinary wrong ∨
        right.HasBinary wrong
  | _ => False

instance decidableHasBinary
    (wrong : BinaryOperator → Expr → Expr → Prop)
    [∀ operator left right, Decidable (wrong operator left right)] :
    (expr : Expr) → Decidable (expr.HasBinary wrong)
  | .value _ => inferInstanceAs (Decidable False)
  | .field _ => inferInstanceAs (Decidable False)
  | .query _ => inferInstanceAs (Decidable False)
  | .unary _ inner => decidableHasBinary wrong inner
  | .binary operator left right =>
      have := decidableHasBinary wrong left
      have := decidableHasBinary wrong right
      inferInstanceAs (Decidable (wrong operator left right ∨
        left.HasBinary wrong ∨ right.HasBinary wrong))

theorem keepsInner_of_rank {rank : Operator → Nat}
    (tighter : ∀ {parent : UnaryOperator} {edge : BinaryOperator},
      (Operator.unary parent).precedence ≤ (Operator.binary edge).precedence →
        rank (.unary parent) < rank (.binary edge))
    (operator : UnaryOperator) (operand : Expr) :
    KeepsInner rank operator operand := by
  intro bare later member
  obtain ⟨_, _, within, below⟩ := exists_root_of_inner bare member
  exact tighter (Nat.le_trans within below)

/-- If operators that stand next to one another without parentheses are only
taken apart where something is wrong, then so is a whole expression. -/
theorem groupsBy_iff_not_hasBinary {rank : Operator → Nat}
    {wrong : BinaryOperator → Expr → Expr → Prop} (known : Operator → Prop)
    (inner : ∀ operator operand, KeepsInner rank operator operand)
    (outer : ∀ {operator left right}, known (.binary operator) →
      ¬ left.HasBinary wrong →
        (KeepsLeft rank operator left ∧ KeepsRight rank operator right ↔
          ¬ wrong operator left right))
    (expr : Expr) (all : ∀ operator ∈ expr.operators, known operator) :
    expr.GroupsBy rank ↔ ¬ expr.HasBinary wrong := by
  induction expr using operationRec with
  | value constant => simp [GroupsBy, HasBinary]
  | field field => simp [GroupsBy, HasBinary]
  | query select => simp [GroupsBy, HasBinary]
  | unary operator operand ih =>
      rw [operators, List.forall_mem_cons] at all
      rw [GroupsBy, HasBinary, ih all.2]
      exact and_iff_right (inner operator operand)
  | binary operator left right leftIH rightIH =>
      rw [operators, List.forall_mem_cons, List.forall_mem_append] at all
      rw [GroupsBy, HasBinary, not_or, not_or, leftIH all.2.1,
        rightIH all.2.2, ← and_assoc]
      exact and_congr_left fun fine => outer all.1 fine.1

end Expr

/-- A database keeps exactly the expressions in which nothing is wrong, if each
operator alone keeps its operands when nothing is wrong with them. -/
theorem Precedences.keeps_iff_not_hasBinary {table : Precedences}
    {dialect : Dialect} {wrong : BinaryOperator → Expr → Expr → Prop}
    (known : Operator → Prop) (plain : dialect.Spells Keyword.IsPlain)
    (knows : ∀ {operator}, known operator → table.Knows dialect operator)
    (inner : ∀ {parent : UnaryOperator} {edge : BinaryOperator},
      (Operator.unary parent).precedence ≤ (Operator.binary edge).precedence →
        table.rank dialect (.unary parent) < table.rank dialect (.binary edge))
    (outer : ∀ {operator left right}, known (.binary operator) →
      ¬ left.HasBinary wrong →
        (Expr.KeepsLeft (table.rank dialect) operator left ∧
            Expr.KeepsRight (table.rank dialect) operator right ↔
          ¬ wrong operator left right))
    {context : Context} {expr : Expr} (spelling : context.dialect = dialect)
    (all : ∀ operator ∈ expr.operators, known operator)
    (completes : (expr.script context).Completes) :
    table.Keeps context expr ↔ ¬ expr.HasBinary wrong := by
  subst spelling
  have has : ∀ operator ∈ expr.operators,
      table.Knows context.dialect operator :=
    fun operator member => knows (all operator member)
  rw [keeps_iff_groupsBy plain has completes]
  exact Expr.groupsBy_iff_not_hasBinary known (Expr.keepsInner_of_rank inner)
    outer expr all

end SqlWeave
