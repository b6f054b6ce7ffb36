import SqlWeave.Proofs.Precedence.Grammar

/-!
# Readings by a table of precedences

A database reads an expression from left to right by its own table of
precedences: an operand between two operators belongs to the one that binds
tighter, and to the first one if they bind alike.  An operator in front of its
operand may bind less than one that stands before it, as in `a * ~b`; it then
takes all that follows and binds tighter.

A phrase is a tree of operators with the parentheses of the text still in it.
Text and tree determine the phrase (`Phrase.Formed.eq_of_reading`): two readings
that group alike also agree on what the parentheses stand for.
-/

namespace SqlWeave

/-- How tightly a database binds its operators. -/
structure Precedences where
  /-- Operators that bind alike stand in one row, those that bind least in the
  first one. -/
  rows : List (List Keyword)
  /-- The operators in front of a single operand; all others stand between
  two. -/
  unaries : List Keyword
  free : ∀ word ∈ rows.flatten, ¬ word.IsReserved

namespace Precedences

/-- The number of the row of an operator. -/
def level (table : Precedences) (word : Keyword) : Nat :=
  table.rows.findIdx fun row => row.contains word

/-- The keyword is an operator in front of its operand. -/
def IsUnary (table : Precedences) (word : Keyword) : Prop :=
  word ∈ table.rows.flatten ∧ word ∈ table.unaries

/-- The keyword is an operator between its operands. -/
def IsBinary (table : Precedences) (word : Keyword) : Prop :=
  word ∈ table.rows.flatten ∧ word ∉ table.unaries

instance (table : Precedences) (word : Keyword) :
    Decidable (table.IsUnary word) :=
  inferInstanceAs (Decidable (_ ∧ _))

instance (table : Precedences) (word : Keyword) :
    Decidable (table.IsBinary word) :=
  inferInstanceAs (Decidable (_ ∧ _))

end Precedences

/-- A tree of operators together with the parentheses in the text. -/
inductive Phrase where
  | single (fragments : List Fragment)
  | group (inner : Phrase)
  | unary (word : Keyword) (inner : Phrase)
  | binary (word : Keyword) (left right : Phrase)

namespace Phrase

/-- The text of a phrase. -/
def fragments : Phrase → List Fragment
  | single fragments => fragments
  | group inner => Fragment.enclosed inner.fragments
  | unary word inner => .keyword word :: inner.fragments
  | binary word left right =>
      left.fragments ++ .keyword word :: right.fragments

/-- The tree of operators, without the parentheses. -/
def reading : Phrase → Reading Keyword Keyword
  | single fragments => .operand fragments
  | group inner => inner.reading
  | unary word inner => .unary word inner.reading
  | binary word left right => .binary word left.reading right.reading

/-- The operators whose left operand begins where the phrase begins. -/
def leftEdge : Phrase → List Keyword
  | binary word left _ => word :: left.leftEdge
  | _ => []

/-- The operators whose last operand ends where the phrase ends. -/
def rightEdge : Phrase → List Keyword
  | unary word inner => word :: inner.rightEdge
  | binary word _ right => word :: right.rightEdge
  | _ => []

variable (table : Precedences)

/-- Operators and operands are such, and no single operand stands in
parentheses of its own. -/
def Formed : Phrase → Prop
  | single fragments => IsOperand fragments
  | group inner => inner.reading.isOperation = true ∧ inner.Formed
  | unary word inner => table.IsUnary word ∧ inner.Formed
  | binary word left right =>
      table.IsBinary word ∧ left.Formed ∧ right.Formed

/-- Each operand between two operators belongs to the one that binds tighter,
and to the first one if they bind alike. -/
def Respects : Phrase → Prop
  | single _ => True
  | group inner => inner.Respects
  | unary word inner =>
      (∀ later ∈ inner.leftEdge, table.level word < table.level later) ∧
        inner.Respects
  | binary word left right =>
      (∀ earlier ∈ left.rightEdge, table.level word ≤ table.level earlier) ∧
        (∀ later ∈ right.leftEdge, table.level word < table.level later) ∧
          left.Respects ∧ right.Respects

end Phrase

/-- The database reads the text as the tree. -/
def Precedences.Reads (table : Precedences) (fragments : List Fragment)
    (reading : Reading Keyword Keyword) : Prop :=
  ∃ phrase : Phrase, phrase.Formed table ∧ phrase.Respects table ∧
    phrase.fragments = fragments ∧ phrase.reading = reading

namespace Phrase

variable {table : Precedences} {phrase inner left right : Phrase}

/-! ## The text of phrases -/

theorem Formed.ne_nil (formed : phrase.Formed table) :
    phrase.fragments ≠ [] := by
  cases phrase with
  | single fragments => exact IsOperand.ne_nil formed
  | group inner => simp [fragments, Fragment.enclosed]
  | unary word inner => simp [fragments]
  | binary word left right => simp [fragments]

theorem nested_cons_iff {word : Keyword} (known : word ∈ table.rows.flatten)
    (rest : List Fragment) :
    Fragment.Nested (.keyword word :: rest) ↔ Fragment.Nested rest :=
  Grammar.Reads.nested_cons_iff (table.free word known) rest

theorem Formed.nested (formed : phrase.Formed table) :
    Fragment.Nested phrase.fragments := by
  induction phrase with
  | single fragments => exact IsOperand.nested formed
  | group inner ih => exact (ih formed.2).enclosed
  | unary word inner ih =>
      exact (nested_cons_iff formed.1.1 _).mpr (ih formed.2)
  | binary word left right leftIH rightIH =>
      exact (leftIH formed.2.1).append
        ((nested_cons_iff formed.1.1 _).mpr (rightIH formed.2.2))

/-- An operation has an operator in its text. -/
theorem Formed.exists_word (formed : phrase.Formed table)
    (operation : phrase.reading.isOperation = true) :
    ∃ word ∈ table.rows.flatten, .keyword word ∈ phrase.fragments := by
  induction phrase with
  | single fragments => cases operation
  | group inner ih =>
      obtain ⟨word, known, member⟩ := ih formed.2 operation
      exact ⟨word, known, by simp [fragments, Fragment.enclosed, member]⟩
  | unary word inner => exact ⟨word, formed.1.1, by simp [fragments]⟩
  | binary word left right => exact ⟨word, formed.1.1, by simp [fragments]⟩

theorem Formed.front_ne_select (formed : phrase.Formed table)
    (rest : List Fragment) : phrase.fragments ≠ .keyword .select :: rest := by
  have reserved : Keyword.IsReserved .select := by decide
  induction phrase generalizing rest with
  | single fragments =>
      intro front
      rw [Formed, show fragments = _ from front] at formed
      exact absurd formed.eq_of_keyword (by decide)
  | group inner ih =>
      intro front
      rw [fragments, Fragment.enclosed, List.cons.injEq,
        Fragment.keyword.injEq] at front
      exact absurd front.1 (by decide)
  | unary word inner ih =>
      intro front
      rw [fragments, List.cons.injEq, Fragment.keyword.injEq] at front
      exact table.free word formed.1.1 (front.1 ▸ reserved)
  | binary word left right leftIH rightIH =>
      intro front
      rw [fragments] at front
      cases begins : left.fragments with
      | nil => exact formed.2.1.ne_nil begins
      | cons head tail =>
          rw [begins, List.cons_append, List.cons.injEq] at front
          exact leftIH formed.2.1 tail (by rw [begins, front.1])

/-- Parentheses around an operation are not those of an inner. -/
theorem Formed.not_isOperand_enclosed (formed : phrase.Formed table)
    (operation : phrase.reading.isOperation = true) :
    ¬ IsOperand (Fragment.enclosed phrase.fragments) := by
  intro single
  generalize whole : Fragment.enclosed phrase.fragments = outer at single
  cases single with
  | column path => cases whole
  | placeholder value => cases whole
  | null => simp [Fragment.enclosed] at whole
  | list values present =>
      obtain ⟨word, known, member⟩ := formed.exists_word operation
      rw [Fragment.enclosed_injective whole] at member
      have comma := IsOperand.eq_comma_of_mem_placeholders member
      exact table.free word known (comma ▸ by decide)
  | query body nested =>
      exact formed.front_ne_select body (Fragment.enclosed_injective whole)

/-- What begins with an operator does not begin with a parenthesis. -/
theorem keyword_ne_enclosed {word : Keyword}
    (known : word ∈ table.rows.flatten) (rest body : List Fragment) :
    Fragment.keyword word :: rest ≠ Fragment.enclosed body :=
  fun equal => Grammar.Reads.enclosed_ne_keyword (table.free word known) body
    rest equal.symm

/-- A binary operator outside of parentheses is not inside of them. -/
theorem Formed.binary_ne_enclosed {word : Keyword}
    (formed : left.Formed table) {body rest : List Fragment}
    (nested : Fragment.Nested body) :
    left.fragments ++ .keyword word :: rest ≠ Fragment.enclosed body := by
  intro equal
  rcases nested.indivisible_enclosed _ _ equal.symm formed.nested with
    empty | empty
  · exact formed.ne_nil empty
  · cases empty

/-! ## Trees without their parentheses -/

/-- Whether the fragment is an operator. -/
def isWord (table : Precedences) : Fragment → Bool
  | .keyword word => table.rows.flatten.contains word
  | _ => false

end Phrase

/-- The number of operators in what a tree was read from, those in its operands
included. -/
def Reading.words (table : Precedences) : Reading Keyword Keyword → Nat
  | operand fragments => fragments.countP (Phrase.isWord table)
  | unary _ inner => inner.words table + 1
  | binary _ left right => left.words table + right.words table + 1

namespace Phrase

variable {table : Precedences} {phrase other left right : Phrase}

theorem isWord_of_mem {word : Keyword} (known : word ∈ table.rows.flatten) :
    isWord table (.keyword word) = true :=
  List.contains_iff_mem.mpr known

/-- Parentheses are no operators, so the tree tells how many there are. -/
theorem Formed.countP_fragments (formed : phrase.Formed table) :
    phrase.fragments.countP (isWord table) = phrase.reading.words table := by
  have paren {word : Keyword} (reserved : word.IsReserved) :
      isWord table (.keyword word) = false := by
    rw [Bool.eq_false_iff]
    intro known
    exact table.free word (List.contains_iff_mem.mp known) reserved
  induction phrase with
  | single fragments => rfl
  | group inner ih =>
      have opening := @paren .openParen (by decide)
      have closing := @paren .closeParen (by decide)
      simp [fragments, Fragment.enclosed, opening, closing, ih formed.2,
        reading]
  | unary word inner ih =>
      simp [fragments, isWord_of_mem formed.1.1, ih formed.2, reading,
        Reading.words]
  | binary word left right leftIH rightIH =>
      simp [fragments, isWord_of_mem formed.1.1,
        leftIH formed.2.1, rightIH formed.2.2, reading, Reading.words]
      omega

/-- Of two phrases with one tree, none is the other one with an operator behind
it. -/
theorem Formed.eq_nil_of_append {word : Keyword}
    {middle after rest : List Fragment}
    (formed : left.Formed table) (formed' : right.Formed table)
    (known : word ∈ table.rows.flatten) (same : left.reading = right.reading)
    (longer : right.fragments = left.fragments ++ middle)
    (goesOn : .keyword word :: after = middle ++ rest) : middle = [] := by
  have count := formed'.countP_fragments
  rw [longer, List.countP_append, formed.countP_fragments, same] at count
  cases middle with
  | nil => rfl
  | cons head tail =>
      rw [List.cons_append, List.cons.injEq] at goesOn
      rw [← goesOn.1, List.countP_cons, isWord_of_mem known, if_pos rfl]
        at count
      omega

/-- A phrase is determined by its text and its tree. -/
theorem Formed.eq_of_reading (formed : phrase.Formed table)
    (formed' : other.Formed table) (same : phrase.reading = other.reading)
    (texts : phrase.fragments = other.fragments) : phrase = other := by
  induction phrase generalizing other with
  | single fragments =>
      cases other with
      | single fragments' => rw [Reading.operand.inj same]
      | group inner' =>
          have operation := formed'.1
          rw [show inner'.reading = .operand fragments from same.symm]
            at operation
          cases operation
      | unary word' inner' => cases same
      | binary word' left' right' => cases same
  | group inner ih =>
      cases other with
      | single fragments' =>
          have operation := formed.1
          rw [show inner.reading = .operand fragments' from same] at operation
          cases operation
      | group inner' =>
          rw [ih formed.2 formed'.2 same (Fragment.enclosed_injective texts)]
      | unary word' inner' =>
          exact absurd texts.symm (keyword_ne_enclosed formed'.1.1 _ _)
      | binary word' left' right' =>
          exact absurd texts.symm
            (formed'.2.1.binary_ne_enclosed formed.2.nested)
  | unary word inner ih =>
      cases other with
      | single fragments' => cases same
      | group inner' =>
          exact absurd texts (keyword_ne_enclosed formed.1.1 _ _)
      | unary word' inner' =>
          obtain ⟨rfl, inners⟩ := Reading.unary.inj same
          rw [ih formed.2 formed'.2 inners (List.cons.inj texts).2]
      | binary word' left' right' => cases same
  | binary word left right leftIH rightIH =>
      cases other with
      | single fragments' => cases same
      | group inner' =>
          exact absurd texts (formed.2.1.binary_ne_enclosed formed'.2.nested)
      | unary word' inner' => cases same
      | binary word' left' right' =>
          obtain ⟨rfl, lefts, rights⟩ := Reading.binary.inj same
          obtain ⟨known, formedLeft, formedRight⟩ := formed
          obtain ⟨_, formedLeft', formedRight'⟩ := formed'
          have fronts : left.fragments = left'.fragments ∧
              Fragment.keyword word :: right.fragments =
                .keyword word :: right'.fragments := by
            rcases List.append_eq_append_iff.mp texts with
              ⟨middle, longer, goesOn⟩ | ⟨middle, longer, goesOn⟩
            · have empty := formedLeft.eq_nil_of_append formedLeft' known.1
                lefts longer goesOn
              rw [empty, List.append_nil] at longer
              rw [empty] at goesOn
              exact ⟨longer.symm, goesOn⟩
            · have empty := formedLeft'.eq_nil_of_append formedLeft known.1
                lefts.symm longer goesOn
              rw [empty, List.append_nil] at longer
              rw [empty] at goesOn
              exact ⟨longer, goesOn.symm⟩
          rw [leftIH formedLeft formedLeft' lefts fronts.1,
            rightIH formedRight formedRight' rights
              (List.cons.inj fronts.2).2]

end Phrase

end SqlWeave
