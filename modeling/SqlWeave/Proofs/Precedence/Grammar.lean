import SqlWeave.Proofs.Script.Nesting

/-!
# Grammars of operators

How a sequence of fragments is read as an expression, if all that is known of
the operators is how they are written and how tightly they bind.  A grammar is
a table of this; its readings are the trees of operators that the fragments can
stand for.  There is at most one (`Reads.unique`): the operator at the root is
the one that binds least, and of several such the last.
-/

namespace SqlWeave

/-- A tree of operators over operands.  An operand is kept as its fragments. -/
inductive Reading (Unary Binary : Type) where
  | operand (fragments : List Fragment)
  | unary (operator : Unary) (operand : Reading Unary Binary)
  | binary (operator : Binary) (left right : Reading Unary Binary)

/-- Whether an operator stands at the root. -/
def Reading.isOperation {Unary Binary : Type} :
    Reading Unary Binary → Bool
  | operand _ => false
  | _ => true

/-- The keyword has a meaning of its own in expressions. -/
def Keyword.IsReserved (word : Keyword) : Prop :=
  word ∈ [openParen, closeParen, null, comma, select]

instance (word : Keyword) : Decidable word.IsReserved :=
  inferInstanceAs (Decidable (_ ∈ _))

/-- The placeholders of several values with commas between them. -/
def Fragment.placeholders (values : List Value) : List Fragment :=
  (values.map parameter).intersperse (.keyword .comma)

/-- What stands for a single operand: a column, a placeholder, `NULL`,
placeholders in parentheses, or a `SELECT` in parentheses. -/
inductive IsOperand : List Fragment → Prop where
  | column (path : Path) : IsOperand [.name path]
  | placeholder (value : Value) : IsOperand [.parameter value]
  | null : IsOperand [.keyword .null]
  | list (values : List Value) (present : values ≠ []) :
      IsOperand (Fragment.enclosed (Fragment.placeholders values))
  | query (body : List Fragment) (nested : Fragment.Nested body) :
      IsOperand (Fragment.enclosed (.keyword .select :: body))

namespace IsOperand

theorem ne_nil {fragments : List Fragment} (single : IsOperand fragments) :
    fragments ≠ [] := by
  cases single <;> simp [Fragment.enclosed]

theorem eq_of_keyword {word : Keyword} {rest : List Fragment}
    (single : IsOperand (.keyword word :: rest)) :
    word = .null ∨ word = .openParen := by
  generalize whole : Fragment.keyword word :: rest = fragments at single
  cases single <;> simp_all [Fragment.enclosed]

/-- An operator is not the beginning of an operand. -/
theorem reserved_of_keyword {word : Keyword} {rest : List Fragment}
    (single : IsOperand (.keyword word :: rest)) : word.IsReserved := by
  rcases single.eq_of_keyword with rfl | rfl <;> decide

theorem eq_comma_of_mem_placeholders {values : List Value} {word : Keyword}
    (member : .keyword word ∈ Fragment.placeholders values) :
    word = .comma := by
  induction values with
  | nil => cases member
  | cons value rest ih =>
      cases rest with
      | nil => simp [Fragment.placeholders] at member
      | cons next others =>
          have cases : Fragment.keyword word = .keyword .comma ∨
              .keyword word ∈ Fragment.placeholders (next :: others) := by
            simpa [Fragment.placeholders] using member
          rcases cases with equal | later
          · exact Fragment.keyword.inj equal
          · exact ih later

theorem nested_placeholders (values : List Value) :
    Fragment.Nested (Fragment.placeholders values) := by
  induction values with
  | nil => rfl
  | cons value rest ih =>
      cases rest with
      | nil => rfl
      | cons next others =>
          have tail : Fragment.Nested
              (.keyword .comma :: Fragment.placeholders (next :: others)) :=
            (Fragment.Nested.cons_iff rfl rfl _).mpr ih
          exact (Fragment.Nested.cons_iff rfl rfl _).mpr tail

theorem nested {fragments : List Fragment} (single : IsOperand fragments) :
    Fragment.Nested fragments := by
  cases single with
  | column path => rfl
  | placeholder value => rfl
  | null => rfl
  | list values => exact (nested_placeholders values).enclosed
  | query body nested =>
      exact ((Fragment.Nested.cons_iff rfl rfl body).mpr nested).enclosed

theorem indivisible {fragments : List Fragment} (single : IsOperand fragments) :
    Fragment.Indivisible fragments := by
  cases single with
  | column path => exact Fragment.indivisible_single _
  | placeholder value => exact Fragment.indivisible_single _
  | null => exact Fragment.indivisible_single _
  | list values => exact (nested_placeholders values).indivisible_enclosed
  | query body nested =>
      exact ((Fragment.Nested.cons_iff rfl rfl body).mpr nested).indivisible_enclosed

end IsOperand

/-- How operators are written and how tightly they bind; a higher level binds
tighter.  Unary operators stand in front of their operand. -/
structure Grammar (Unary Binary : Type) where
  unaryWord : Unary → Keyword
  binaryWord : Binary → Keyword
  unaryLevel : Unary → Nat
  binaryLevel : Binary → Nat
  /-- Whether `a op b op c` may be written for `(a op b) op c`. -/
  chains : Binary → Bool
  unaryWord_injective : ∀ {left right}, unaryWord left = unaryWord right →
    left = right
  binaryWord_injective : ∀ {left right}, binaryWord left = binaryWord right →
    left = right
  words_differ : ∀ unary binary, unaryWord unary ≠ binaryWord binary
  levels_differ : ∀ unary binary, unaryLevel unary ≠ binaryLevel binary
  unaryWord_free : ∀ unary, ¬ (unaryWord unary).IsReserved
  binaryWord_free : ∀ binary, ¬ (binaryWord binary).IsReserved

namespace Grammar

variable {Unary Binary : Type} (grammar : Grammar Unary Binary)

/-- How tightly the left operand of an operator must bind. -/
def leftLevel (operator : Binary) : Nat :=
  if grammar.chains operator then grammar.binaryLevel operator
  else grammar.binaryLevel operator + 1

theorem binaryLevel_le_leftLevel (operator : Binary) :
    grammar.binaryLevel operator ≤ grammar.leftLevel operator := by
  rw [leftLevel]
  split
  · exact Nat.le_refl _
  · exact Nat.le_succ _

theorem leftLevel_le_succ (operator : Binary) :
    grammar.leftLevel operator ≤ grammar.binaryLevel operator + 1 := by
  rw [leftLevel]
  split
  · exact Nat.le_succ _
  · exact Nat.le_refl _

theorem leftLevel_of_chains {operator : Binary}
    (chains : grammar.chains operator = true) :
    grammar.leftLevel operator = grammar.binaryLevel operator := by
  rw [leftLevel, if_pos chains]

/-- The fragments can be read as the tree, by operators of at least `level`
outside of parentheses. -/
inductive Reads : Nat → List Fragment → Reading Unary Binary → Prop where
  | operand {level : Nat} {fragments : List Fragment}
      (single : IsOperand fragments) : Reads level fragments (.operand fragments)
  | group {level : Nat} {fragments : List Fragment}
      {reading : Reading Unary Binary} (inner : Reads 0 fragments reading)
      (operation : reading.isOperation) :
      Reads level (Fragment.enclosed fragments) reading
  | unary {level : Nat} {operator : Unary} {fragments : List Fragment}
      {reading : Reading Unary Binary}
      (binds : level ≤ grammar.unaryLevel operator)
      (operand : Reads (grammar.unaryLevel operator) fragments reading) :
      Reads level (.keyword (grammar.unaryWord operator) :: fragments)
        (.unary operator reading)
  | binary {level : Nat} {operator : Binary} {before after : List Fragment}
      {left right : Reading Unary Binary}
      (binds : level ≤ grammar.binaryLevel operator)
      (first : Reads (grammar.leftLevel operator) before left)
      (second : Reads (grammar.binaryLevel operator + 1) after right) :
      Reads level
        (before ++ .keyword (grammar.binaryWord operator) :: after)
        (.binary operator left right)

namespace Reads

variable {grammar : Grammar Unary Binary}
variable {level other : Nat} {fragments : List Fragment}
variable {reading : Reading Unary Binary}

theorem ne_nil (reads : grammar.Reads level fragments reading) :
    fragments ≠ [] := by
  cases reads with
  | operand single => exact single.ne_nil
  | group inner operation => simp [Fragment.enclosed]
  | unary binds operand => simp
  | binary binds first second => simp

/-- An operator is no parenthesis, so fragments behind it are nested as they
are together with it. -/
theorem nested_cons_iff {word : Keyword} (free : ¬ word.IsReserved)
    (rest : List Fragment) :
    Fragment.Nested (.keyword word :: rest) ↔ Fragment.Nested rest := by
  simp only [Keyword.IsReserved, List.mem_cons, not_or] at free
  apply Fragment.Nested.cons_iff
  · simpa [Fragment.opens] using free.1
  · simpa [Fragment.closes] using free.2.1

theorem nested (reads : grammar.Reads level fragments reading) :
    Fragment.Nested fragments := by
  induction reads with
  | operand single => exact single.nested
  | group inner operation ih => exact ih.enclosed
  | unary binds operand ih =>
      exact (nested_cons_iff (grammar.unaryWord_free _) _).mpr ih
  | binary binds first second firstIH secondIH =>
      exact firstIH.append
        ((nested_cons_iff (grammar.binaryWord_free _) _).mpr secondIH)

/-- What is indivisible and does not begin with an operator has no binary
operator outside of parentheses. -/
theorem not_outside_of_indivisible {operator : Binary}
    {before after : List Fragment} (whole : Fragment.Indivisible fragments)
    (split : fragments =
      before ++ .keyword (grammar.binaryWord operator) :: after)
    (nested : Fragment.Nested before) :
    fragments = .keyword (grammar.binaryWord operator) :: after := by
  rcases whole before _ split nested with empty | empty
  · rw [split, empty, List.nil_append]
  · cases empty

theorem enclosed_ne_keyword {word : Keyword} (free : ¬ word.IsReserved)
    (inner rest : List Fragment) :
    Fragment.enclosed inner ≠ .keyword word :: rest := by
  intro equal
  rw [Fragment.enclosed, List.cons.injEq, Fragment.keyword.injEq] at equal
  exact free (by simp [Keyword.IsReserved, ← equal.1])

/-- A binary operator outside of parentheses binds at least as tightly as the
level asks for. -/
theorem level_le_outside {operator : Binary} {before after : List Fragment}
    (reads : grammar.Reads level fragments reading)
    (split : fragments =
      before ++ .keyword (grammar.binaryWord operator) :: after)
    (nested : Fragment.Nested before) :
    level ≤ grammar.binaryLevel operator := by
  induction reads generalizing before after with
  | operand single =>
      have starts :=
        not_outside_of_indivisible single.indivisible split nested
      rw [starts] at single
      exact absurd single.reserved_of_keyword (grammar.binaryWord_free operator)
  | group inner operation =>
      have starts :=
        not_outside_of_indivisible inner.nested.indivisible_enclosed split nested
      exact absurd starts
        (enclosed_ne_keyword (grammar.binaryWord_free operator) _ _)
  | @unary level leading rest _ binds operand ih =>
      cases before with
      | nil =>
          rw [List.nil_append, List.cons.injEq, Fragment.keyword.injEq] at split
          exact absurd split.1 (grammar.words_differ leading operator)
      | cons head tail =>
          rw [List.cons_append, List.cons.injEq] at split
          obtain ⟨rfl, rests⟩ := split
          have tailNested : Fragment.Nested tail :=
            (nested_cons_iff (grammar.unaryWord_free leading) tail).mp nested
          exact Nat.le_trans binds (ih rests tailNested)
  | @binary level root left right _ _ binds first second firstIH secondIH =>
      rcases List.append_eq_append_iff.mp split with
        ⟨middle, beforeEq, rightEq⟩ | ⟨middle, leftEq, afterEq⟩
      · -- The operator is the root or stands to its right.
        cases middle with
        | nil =>
            rw [List.nil_append, List.cons.injEq, Fragment.keyword.injEq]
              at rightEq
            rw [← grammar.binaryWord_injective rightEq.1]
            exact binds
        | cons head tail =>
            rw [List.cons_append, List.cons.injEq] at rightEq
            obtain ⟨rfl, rightEq⟩ := rightEq
            rw [beforeEq] at nested
            have tailNested : Fragment.Nested tail :=
              (nested_cons_iff (grammar.binaryWord_free root) tail).mp
                (nested.of_append first.nested)
            have tighter := secondIH rightEq tailNested
            omega
      · -- The operator is the root or stands to its left.
        cases middle with
        | nil =>
            rw [List.nil_append, List.cons.injEq, Fragment.keyword.injEq]
              at afterEq
            rw [grammar.binaryWord_injective afterEq.1]
            exact binds
        | cons head tail =>
            rw [List.cons_append, List.cons.injEq] at afterEq
            obtain ⟨rfl, afterEq⟩ := afterEq
            have tighter := firstIH leftEq nested
            have lower := grammar.binaryLevel_le_leftLevel root
            omega

/-- A unary operator at the front binds at least as tightly as the level asks
for. -/
theorem level_le_front {operator : Unary} {rest : List Fragment}
    (reads : grammar.Reads level fragments reading)
    (front : fragments = .keyword (grammar.unaryWord operator) :: rest) :
    level ≤ grammar.unaryLevel operator := by
  induction reads generalizing rest with
  | operand single =>
      rw [front] at single
      exact absurd single.reserved_of_keyword (grammar.unaryWord_free operator)
  | group inner operation =>
      exact absurd front
        (enclosed_ne_keyword (grammar.unaryWord_free operator) _ _)
  | unary binds operand =>
      rw [List.cons.injEq, Fragment.keyword.injEq] at front
      rw [← grammar.unaryWord_injective front.1]
      exact binds
  | @binary level root left right _ _ binds first second firstIH =>
      cases left with
      | nil => exact absurd rfl first.ne_nil
      | cons head tail =>
          rw [List.cons_append, List.cons.injEq] at front
          obtain ⟨rfl, _⟩ := front
          have tighter := firstIH rfl
          have lower := grammar.binaryLevel_le_leftLevel root
          omega

/-- No expression begins with `SELECT`; a sub-query is in parentheses. -/
theorem front_ne_select (reads : grammar.Reads level fragments reading)
    (rest : List Fragment) : fragments ≠ .keyword .select :: rest := by
  have reserved : Keyword.IsReserved .select := by decide
  induction reads generalizing rest with
  | operand single =>
      intro front
      rw [front] at single
      exact absurd single.eq_of_keyword (by decide)
  | group inner operation =>
      intro front
      rw [Fragment.enclosed, List.cons.injEq, Fragment.keyword.injEq] at front
      exact absurd front.1 (by decide)
  | unary binds operand =>
      intro front
      rw [List.cons.injEq, Fragment.keyword.injEq] at front
      exact grammar.unaryWord_free _ (front.1 ▸ reserved)
  | @binary _ _ left _ _ _ binds first second firstIH =>
      intro front
      cases left with
      | nil => exact first.ne_nil rfl
      | cons head tail =>
          rw [List.cons_append, List.cons.injEq] at front
          exact firstIH tail (by rw [front.1])

/-- Parentheses around an operation are not those of an operand. -/
theorem not_isOperand_enclosed (inner : grammar.Reads 0 fragments reading)
    (operation : reading.isOperation) :
    ¬ IsOperand (Fragment.enclosed fragments) := by
  intro single
  generalize whole : Fragment.enclosed fragments = outer at single
  cases single with
  | column path => cases whole
  | placeholder value => cases whole
  | null => simp [Fragment.enclosed] at whole
  | list values present =>
      cases Fragment.enclosed_injective whole
      -- Only commas are keywords here, and a comma is no operator.
      have comma : ∀ word, .keyword word ∈ Fragment.placeholders values →
          word = .comma := fun _ => IsOperand.eq_comma_of_mem_placeholders
      generalize Fragment.placeholders values = fragments at inner comma
      have reserved : Keyword.IsReserved .comma := by decide
      cases inner with
      | operand single => cases operation
      | group inner operation =>
          have equal := comma .openParen (by simp [Fragment.enclosed])
          exact absurd equal (by decide)
      | unary binds operand =>
          have equal := comma _ List.mem_cons_self
          exact grammar.unaryWord_free _ (equal ▸ reserved)
      | binary binds first second =>
          have equal := comma _ (List.mem_append_right _ List.mem_cons_self)
          exact grammar.binaryWord_free _ (equal ▸ reserved)
  | query body nested =>
      exact inner.front_ne_select body (Fragment.enclosed_injective whole)

/-- What is indivisible has no binary operator at its root. -/
theorem not_indivisible {operator : Binary} {before after : List Fragment}
    (first : grammar.Reads level before reading) :
    ¬ Fragment.Indivisible
      (before ++ .keyword (grammar.binaryWord operator) :: after) := by
  intro whole
  rcases whole before _ rfl first.nested with empty | empty
  · exact first.ne_nil empty
  · cases empty

/-- A unary operator at the root does not leave a binary one for the root. -/
theorem unary_ne_binary {unary : Unary} {binary : Binary}
    {rest before after : List Fragment} {left : Reading Unary Binary}
    (operand : grammar.Reads (grammar.unaryLevel unary) rest reading)
    (first : grammar.Reads (grammar.leftLevel binary) before left) :
    .keyword (grammar.unaryWord unary) :: rest ≠
      before ++ .keyword (grammar.binaryWord binary) :: after := by
  intro equal
  cases before with
  | nil => exact first.ne_nil rfl
  | cons head tail =>
      rw [List.cons_append, List.cons.injEq] at equal
      obtain ⟨rfl, rests⟩ := equal
      have tailNested : Fragment.Nested tail :=
        (nested_cons_iff (grammar.unaryWord_free unary) tail).mp first.nested
      have below := operand.level_le_outside rests tailNested
      have above := first.level_le_front rfl
      have lower := grammar.binaryLevel_le_leftLevel binary
      have differ := grammar.levels_differ unary binary
      omega

/-- The last of the operators that bind least is the root: of two candidates
the earlier one would bind less than the later one, and the later one at least
as tightly as the earlier one. -/
theorem not_later_root {earlier later : Binary}
    {before middle rest : List Fragment} {left right other : Reading Unary Binary}
    (first : grammar.Reads level before left)
    (second : grammar.Reads (grammar.binaryLevel earlier + 1)
      (middle ++ .keyword (grammar.binaryWord later) :: rest) right)
    (otherFirst : grammar.Reads (grammar.leftLevel later)
      (before ++ .keyword (grammar.binaryWord earlier) :: middle) other) :
    False := by
  have below := otherFirst.level_le_outside rfl first.nested
  have middleNested : Fragment.Nested middle :=
    (nested_cons_iff (grammar.binaryWord_free earlier) middle).mp
      (otherFirst.nested.of_append first.nested)
  have above := second.level_le_outside rfl middleNested
  have lower := grammar.binaryLevel_le_leftLevel later
  omega

/-- Two binary operators at the root are the same one. -/
theorem same_root {operator other : Binary}
    {before after before' after' : List Fragment}
    {left right left' right' : Reading Unary Binary}
    (first : grammar.Reads (grammar.leftLevel operator) before left)
    (second : grammar.Reads (grammar.binaryLevel operator + 1) after right)
    (first' : grammar.Reads (grammar.leftLevel other) before' left')
    (second' : grammar.Reads (grammar.binaryLevel other + 1) after' right')
    (equal : before ++ .keyword (grammar.binaryWord operator) :: after =
      before' ++ .keyword (grammar.binaryWord other) :: after') :
    before = before' ∧ operator = other ∧ after = after' := by
  rcases List.append_eq_append_iff.mp equal with
    ⟨middle, beforeEq, afterEq⟩ | ⟨middle, beforeEq, afterEq⟩
  · cases middle with
    | nil =>
        rw [List.nil_append, List.cons.injEq, Fragment.keyword.injEq] at afterEq
        rw [List.append_nil] at beforeEq
        exact ⟨beforeEq.symm, grammar.binaryWord_injective afterEq.1, afterEq.2⟩
    | cons head tail =>
        rw [List.cons_append, List.cons.injEq] at afterEq
        obtain ⟨rfl, rfl⟩ := afterEq
        subst beforeEq
        exact (not_later_root first second first').elim
  · cases middle with
    | nil =>
        rw [List.nil_append, List.cons.injEq, Fragment.keyword.injEq] at afterEq
        rw [List.append_nil] at beforeEq
        exact ⟨beforeEq, (grammar.binaryWord_injective afterEq.1).symm,
          afterEq.2.symm⟩
    | cons head tail =>
        rw [List.cons_append, List.cons.injEq] at afterEq
        obtain ⟨rfl, rfl⟩ := afterEq
        subst beforeEq
        exact (not_later_root first' second' first).elim

/-- Fragments have at most one reading. -/
theorem unique {reading' : Reading Unary Binary}
    (reads : grammar.Reads level fragments reading)
    (reads' : grammar.Reads other fragments reading') : reading = reading' := by
  induction reads generalizing other reading' with
  | @operand _ fragments single =>
      cases reads' with
      | operand single' => rfl
      | group inner operation =>
          exact absurd single (inner.not_isOperand_enclosed operation)
      | unary binds operand =>
          exact absurd single.reserved_of_keyword (grammar.unaryWord_free _)
      | binary binds first second =>
          exact absurd single.indivisible first.not_indivisible
  | @group _ fragments _ inner operation ih =>
      generalize whole : Fragment.enclosed fragments = outer at reads'
      cases reads' with
      | operand single =>
          rw [← whole] at single
          exact absurd single (inner.not_isOperand_enclosed operation)
      | group inner' operation' =>
          cases Fragment.enclosed_injective whole
          exact ih inner'
      | unary binds operand =>
          exact absurd whole (enclosed_ne_keyword (grammar.unaryWord_free _) _ _)
      | binary binds first second =>
          exact absurd (whole ▸ inner.nested.indivisible_enclosed)
            first.not_indivisible
  | @unary _ operator rest _ binds operand ih =>
      generalize whole :
        Fragment.keyword (grammar.unaryWord operator) :: rest = outer at reads'
      cases reads' with
      | operand single =>
          rw [← whole] at single
          exact absurd single.reserved_of_keyword (grammar.unaryWord_free _)
      | group inner operation =>
          exact absurd whole.symm
            (enclosed_ne_keyword (grammar.unaryWord_free _) _ _)
      | unary binds' operand' =>
          rw [List.cons.injEq, Fragment.keyword.injEq] at whole
          obtain ⟨words, rfl⟩ := whole
          cases grammar.unaryWord_injective words
          rw [ih operand']
      | binary binds' first second =>
          exact absurd whole (operand.unary_ne_binary first)
  | @binary _ operator before after _ _ binds first second firstIH secondIH =>
      generalize whole :
        before ++ Fragment.keyword (grammar.binaryWord operator) :: after = outer
          at reads'
      cases reads' with
      | operand single =>
          rw [← whole] at single
          exact absurd single.indivisible first.not_indivisible
      | group inner operation =>
          exact absurd (whole.symm ▸ inner.nested.indivisible_enclosed)
            first.not_indivisible
      | unary binds' operand =>
          exact absurd whole.symm (operand.unary_ne_binary first)
      | binary binds' first' second' =>
          obtain ⟨rfl, rfl, rfl⟩ := first.same_root second first' second' whole
          rw [firstIH first', secondIH second']

end Reads

end Grammar

end SqlWeave
