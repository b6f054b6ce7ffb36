import SqlWeave.Dialect.Presets
import SqlWeave.Proofs.Constants.Alike
import SqlWeave.Proofs.Script.Compiled
import SqlWeave.Proofs.Script.Formation
import SqlWeave.Proofs.Script.Scope
import SqlWeave.Proofs.Template.Lockstep

/-!
# Trees of set operators

A compound statement is a tree of set operators over `SELECT`s.  A dialect that
parenthesises every operand writes this tree in such a way that it can be read
back: the pieces of a compiled statement tell the operators, how they are
nested, and what each `SELECT` contributed (`Database.setTree_eq_of_pieces`).
What an operand holds closes no parenthesis that it did not open, so statements
with the same pieces are divided into operands at the same places.
-/

namespace SqlWeave

/-! ## Pieces of fragments -/

namespace Fragment

/-- The piece of text for a fragment; `index` is the number that it gets if it
is a parameter. -/
def piece (dialect : Dialect) (index : Nat) : Fragment → Piece
  | keyword word => .fixed word.render.toList
  | name path => .fixed (dialect.pathChars path)
  | parameter _ => .placeholder index

/-- The pieces of fragments that follow `before` parameters. -/
def pieces (dialect : Dialect) (before : Nat) : List Fragment → List Piece
  | [] => []
  | fragment :: rest =>
      fragment.piece dialect (before + 1) ::
        pieces dialect
          (if fragment.value?.isSome then before + 1 else before) rest

theorem pieces_keyword_cons (dialect : Dialect) (before : Nat)
    (word : Keyword) (rest : List Fragment) :
    pieces dialect before (.keyword word :: rest) =
      .fixed word.render.toList :: pieces dialect before rest := rfl

@[simp] theorem length_pieces (dialect : Dialect) (before : Nat)
    (fragments : List Fragment) :
    (pieces dialect before fragments).length = fragments.length := by
  induction fragments generalizing before with
  | nil => rfl
  | cons fragment rest ih => simp [pieces, ih]

theorem values_cons (fragment : Fragment) (rest : List Fragment) :
    values (fragment :: rest) = fragment.value?.toList ++ values rest := by
  cases fragment <;> simp [values, value?, List.filterMap_cons]

/-- Later fragments are numbered on from the values that were bound before. -/
theorem pieces_append (dialect : Dialect) (before : Nat)
    (first second : List Fragment) :
    pieces dialect before (first ++ second) =
      pieces dialect before first ++
        pieces dialect (before + (values first).length) second := by
  induction first generalizing before with
  | nil => rfl
  | cons fragment rest ih =>
      rw [List.cons_append, pieces, pieces, ih, values_cons]
      cases fragment <;> simp [value?, Nat.add_assoc, Nat.add_comm 1]

/-- There is a placeholder for each value. -/
theorem length_values_eq (dialect : Dialect) (before : Nat)
    (fragments : List Fragment) :
    (values fragments).length =
      ((pieces dialect before fragments).filterMap Piece.number?).length := by
  induction fragments generalizing before with
  | nil => rfl
  | cons fragment rest ih =>
      have tail := ih (if fragment.value?.isSome then before + 1 else before)
      rw [values_cons, List.length_append, pieces, List.filterMap_cons, tail]
      cases fragment <;> simp [piece, value?, Piece.number?, Nat.add_comm]

end Fragment

theorem Buffers.pieces_foldl_write (dialect : Dialect) (buffers : Buffers)
    (fragments : List Fragment) :
    (fragments.foldl (write dialect) buffers).pieces =
      buffers.pieces ++
        Fragment.pieces dialect buffers.values.length fragments := by
  induction fragments generalizing buffers with
  | nil => simp [Fragment.pieces]
  | cons fragment rest ih =>
      rw [List.foldl_cons, ih]
      cases fragment <;>
        simp [write, Fragment.pieces, Fragment.piece, Fragment.value?]

/-- The pieces that a statement is written as: fixed text and numbered
placeholders. -/
def Statement.pieces (statement : Statement) : List Piece :=
  (statement.fragments.foldl (Buffers.write statement.dialect) .empty).pieces

theorem Statement.pieces_eq (statement : Statement) :
    statement.pieces =
      Fragment.pieces statement.dialect 0 statement.fragments := by
  rw [pieces, Buffers.pieces_foldl_write]
  rfl

/-! ## Parentheses in pieces -/

/-- Whether the piece opens and whether it closes a parenthesis. -/
def Piece.bracket : Piece → Bool × Bool
  | fixed chars => (chars == ['('], chars == [')'])
  | placeholder _ => (false, false)

/-- Only a keyword without spaces is a single character. -/
theorem Keyword.render_eq_iff (word : Keyword) {char : Char}
    (visible : char ≠ ' ') :
    word.render.toList = [char] ↔ word = .bare (String.singleton char) := by
  obtain ⟨text, spaceBefore, spaceAfter⟩ := word
  cases spaceBefore with
  | true =>
      have differs : ' ' ≠ char := visible.symm
      simp [render, bare, differs]
  | false =>
      cases spaceAfter with
      | true =>
          suffices ¬ text.toList ++ [' '] = [char] by simpa [render, bare]
          intro equal
          have last := congrArg List.getLast? equal
          rw [List.getLast?_concat] at last
          exact visible (Option.some.inj last).symm
      | false => simp [render, bare, ← String.toList_inj]

/-- A quoted name has at least its two quotes. -/
theorem Dialect.pathChars_ne_singleton (dialect : Dialect) (path : Path)
    (char : Char) : dialect.pathChars path ≠ [char] := by
  obtain ⟨segments⟩ := path
  intro equal
  match segments with
  | [] => simp [pathChars] at equal
  | [segment] => simp [pathChars, quoteChars, Text.Quoted.enclose] at equal
  | segment :: next :: rest =>
      simp [pathChars, quoteChars, Text.Quoted.enclose] at equal

namespace Fragment

/-- Whether the fragment opens and whether it closes a parenthesis. -/
def bracket (fragment : Fragment) : Bool × Bool :=
  (fragment.opens, fragment.closes)

/-- Parentheses can be told from the text. -/
theorem bracket_piece (dialect : Dialect) (index : Nat) (fragment : Fragment) :
    (fragment.piece dialect index).bracket = fragment.bracket := by
  cases fragment with
  | keyword word =>
      have opening : word.render.toList = ['('] ↔ word = .openParen :=
        word.render_eq_iff (by decide)
      have closing : word.render.toList = [')'] ↔ word = .closeParen :=
        word.render_eq_iff (by decide)
      apply Prod.ext
      · rw [Bool.eq_iff_iff]
        simpa [piece, Piece.bracket, bracket, opens] using opening
      · rw [Bool.eq_iff_iff]
        simpa [piece, Piece.bracket, bracket, closes] using closing
  | name path =>
      simp [piece, Piece.bracket, bracket, opens, closes,
        dialect.pathChars_ne_singleton]
  | parameter value => rfl

theorem map_bracket_pieces (dialect : Dialect) (before : Nat)
    (fragments : List Fragment) :
    (pieces dialect before fragments).map Piece.bracket =
      fragments.map bracket := by
  induction fragments generalizing before with
  | nil => rfl
  | cons fragment rest ih =>
      rw [pieces, List.map_cons, List.map_cons, bracket_piece, ih]

/-- Only parentheses count for what is open. -/
theorem openAfter_congr {first second : List Fragment}
    (same : first.map bracket = second.map bracket) (depth : Nat) :
    openAfter depth first = openAfter depth second := by
  induction first generalizing second depth with
  | nil =>
      rw [List.map_nil, eq_comm, List.map_eq_nil_iff] at same
      rw [same]
  | cons fragment rest ih =>
      cases second with
      | nil => cases same
      | cons fragment' rest' =>
          rw [List.map_cons, List.map_cons, List.cons.injEq, bracket, bracket,
            Prod.mk.injEq] at same
          obtain ⟨⟨opening, closing⟩, tails⟩ := same
          simp only [openAfter, opening, closing, ih tails]

namespace Nested

variable {first second rest rest' : List Fragment}

/-- The parenthesis in front is not closed any earlier in the second list. -/
theorem length_le_of_bracket (left : Nested first) (right : Nested second)
    (same : (Fragment.enclosed first ++ rest).map bracket =
      (Fragment.enclosed second ++ rest').map bracket) :
    second.length ≤ first.length := by
  refine Nat.le_of_not_lt fun shorter => ?_
  -- So much of the second group is nested like the first one, but it is not
  -- the whole group.
  let front := (Fragment.enclosed second).take (Fragment.enclosed first).length
  let back := (Fragment.enclosed second).drop (Fragment.enclosed first).length
  have split : Fragment.enclosed second = front ++ back :=
    (List.take_append_drop _ _).symm
  have sizes : (Fragment.enclosed first).length <
      (Fragment.enclosed second).length := by
    simpa [Fragment.enclosed] using shorter
  have brackets : (Fragment.enclosed first).map bracket =
      front.map bracket := by
    have taken := congrArg (List.take (Fragment.enclosed first).length) same
    rw [List.map_append, List.map_append, List.take_append_of_le_length,
      List.take_append_of_le_length, List.take_of_length_le] at taken
    · rw [taken, ← List.map_take]
    · simp
    · simpa using Nat.le_of_lt sizes
    · simp
  have nested : Nested front := by
    rw [Nested, ← openAfter_congr brackets]
    exact left.enclosed
  rcases right.indivisible_enclosed front back split nested with
    empty | empty
  · have none := congrArg List.length brackets
    simp [empty, Fragment.enclosed] at none
  · have all := congrArg List.length split
    rw [empty, List.append_nil, List.length_take] at all
    omega

/-- Groups of nested fragments that begin alike end alike. -/
theorem pieces_eq_of_enclosed {dialect : Dialect} {before : Nat}
    (left : Nested first) (right : Nested second)
    (same : pieces dialect before (Fragment.enclosed first ++ rest) =
      pieces dialect before (Fragment.enclosed second ++ rest')) :
    pieces dialect before first = pieces dialect before second ∧
      pieces dialect (before + (values first).length) rest =
        pieces dialect (before + (values first).length) rest' := by
  have brackets : (Fragment.enclosed first ++ rest).map bracket =
      (Fragment.enclosed second ++ rest').map bracket := by
    rw [← map_bracket_pieces dialect before, same, map_bracket_pieces]
  have sizes : first.length = second.length :=
    Nat.le_antisymm (right.length_le_of_bracket left brackets.symm)
      (left.length_le_of_bracket right brackets)
  have shifted (inner outer : List Fragment) :
      pieces dialect before (Fragment.enclosed inner ++ outer) =
        .fixed ['('] :: (pieces dialect before inner ++
          .fixed [')'] ::
            pieces dialect (before + (values inner).length) outer) := by
    rw [Fragment.enclosed, List.cons_append, List.append_assoc,
      pieces_keyword_cons, pieces_append]
    rfl
  rw [shifted, shifted, List.cons.injEq] at same
  obtain ⟨inner, outer⟩ := List.append_inj same.2 (by simp [sizes])
  have bound : (values first).length = (values second).length := by
    rw [length_values_eq dialect before, inner, ← length_values_eq]
  rw [List.cons.injEq, ← bound] at outer
  exact ⟨inner, outer.2⟩

end Nested

end Fragment

/-! ## Trees -/

/-- A tree of set operators.  Of a `SELECT` it holds what is written for it. -/
inductive SetTree where
  | select (pieces : List Piece)
  | compound (left : SetTree) (operator : SetOperator) (right : SetTree)

mutual

/-- The tree of an operand that follows `before` parameters. -/
def Operand.setTree (context : Context) (before : Nat) : Operand → SetTree
  | .select select =>
      .select (Fragment.pieces context.dialect before
        (Script.fragments (select.script context)))
  | .compound compound => compound.setTree context before

/-- The tree of a compound statement that follows `before` parameters. -/
def Compound.setTree (context : Context) (before : Nat) : Compound → SetTree
  | ⟨left, operator, right, _, _, _⟩ =>
      .compound (left.setTree context before) operator
        (right.setTree context (before + (Fragment.values
          (Script.fragments (left.node.script context))).length))

end

/-- Every operand is parenthesised, and no word looks like a parenthesis. -/
structure Dialect.Encloses (dialect : Dialect) : Prop where
  always : dialect.operandParens = .always
  spells : dialect.Spells Keyword.IsPlain

theorem Dialect.encloses_postgres : postgres.Encloses where
  always := rfl
  spells := {
    operator := by
      intro operator
      rcases operator with operator | operator <;> cases operator <;> decide
    clause := by decide }

theorem Dialect.encloses_mysql : mysql.Encloses where
  always := rfl
  spells := {
    operator := by
      intro operator
      rcases operator with operator | operator <;> cases operator <;> decide
    clause := by decide }

theorem SetOperator.render_keyword_injective {first second : SetOperator}
    (same : first.keyword.render.toList = second.keyword.render.toList) :
    first = second := by
  revert same
  cases first <;> cases second <;> decide

variable {context : Context}

theorem Operand.nested (encloses : context.dialect.Encloses)
    (operand : Operand) (completes : (operand.node.script context).Completes) :
    Fragment.Nested (Script.fragments (operand.node.script context)) := by
  refine Script.Formed.nested ?_ (fun _ plain => plain) completes
  cases operand with
  | select select => exact select.script_formed context encloses.spells
  | compound compound => exact compound.script_formed context encloses.spells

theorem Operand.script_eq_parens (encloses : context.dialect.Encloses)
    (operand : Operand) :
    operand.script context = (operand.node.script context).parens := by
  cases operand <;>
    simp [script, wrapped, encloses.always, Script.parensIf, node, Node.script]

/-- A compound statement is its operands in parentheses, the operator between
them, and clauses of its own. -/
theorem Compound.exists_fragments_eq (encloses : context.dialect.Encloses)
    {left right : Operand} {operator : SetOperator}
    {ordering : List OrderTerm} {limit offset : Option Int64}
    (completes : (script context
      ⟨left, operator, right, ordering, limit, offset⟩).Completes) :
    (left.node.script context).Completes ∧
      (right.node.script context).Completes ∧
      ∃ clauses, Script.fragments (script context
          ⟨left, operator, right, ordering, limit, offset⟩) =
        Fragment.enclosed (Script.fragments (left.node.script context)) ++
          .keyword operator.keyword ::
            (Fragment.enclosed
              (Script.fragments (right.node.script context)) ++ clauses) := by
  rw [script, left.script_eq_parens encloses, right.script_eq_parens encloses,
    List.append_assoc] at completes ⊢
  obtain ⟨sides, clauses⟩ := (Script.completes_append _ _).mp completes
  obtain ⟨front, wrapped⟩ := (Script.completes_append _ _).mp sides
  obtain ⟨opening, _⟩ := (Script.completes_append _ _).mp front
  have inner := (Script.completes_parens _).mp opening
  have inner' := (Script.completes_parens _).mp wrapped
  refine ⟨inner, inner', Script.fragments
    (orderingScript (OrderTerm.scripts context.withBareColumns ordering) ++
      limitsScript context limit offset), ?_⟩
  rw [sides.fragments_append, front.fragments_append,
    opening.fragments_append, inner.fragments_parens, inner'.fragments_parens,
    Script.fragments_keyword, List.append_assoc, List.append_assoc]
  rfl

/-! ## Reading back -/

/-- A `SELECT` does not begin like a compound statement. -/
theorem Operand.select_ne_compound (encloses : context.dialect.Encloses)
    (before : Nat) (select : Select) (compound : Compound)
    (completes : (select.script context).Completes)
    (completes' : (compound.script context).Completes) :
    Fragment.pieces context.dialect before
        (Script.fragments (select.script context)) ≠
      Fragment.pieces context.dialect before
        (Script.fragments (compound.script context)) := by
  obtain ⟨left, operator, right, ordering, limit, offset⟩ := compound
  obtain ⟨body, begins⟩ := Select.fragments_eq_cons completes
  obtain ⟨_, _, clauses, written⟩ :=
    Compound.exists_fragments_eq encloses completes'
  rw [begins, written, Fragment.enclosed, List.cons_append,
    Fragment.pieces_keyword_cons, Fragment.pieces_keyword_cons]
  intro same
  have heads := Piece.fixed.inj (List.cons.inj same).1
  exact absurd heads (by decide)

mutual

theorem Operand.setTree_eq (encloses : context.dialect.Encloses) :
    (before : Nat) → (first second : Operand) →
      (first.node.script context).Completes →
      (second.node.script context).Completes →
      Fragment.pieces context.dialect before
          (Script.fragments (first.node.script context)) =
        Fragment.pieces context.dialect before
          (Script.fragments (second.node.script context)) →
      first.setTree context before = second.setTree context before
  | before, .select first, .select second, _, _, same => by
      rw [Operand.setTree, Operand.setTree]
      exact congrArg SetTree.select same
  | before, .select first, .compound second, completes, completes', same =>
      absurd same (Operand.select_ne_compound encloses before first second
        completes completes')
  | before, .compound first, .select second, completes, completes', same =>
      absurd same.symm (Operand.select_ne_compound encloses before second first
        completes' completes)
  | before, .compound first, .compound second, completes, completes', same => by
      rw [Operand.setTree, Operand.setTree]
      exact Compound.setTree_eq encloses before first second completes
        completes' same

theorem Compound.setTree_eq (encloses : context.dialect.Encloses) :
    (before : Nat) → (first second : Compound) →
      (first.script context).Completes → (second.script context).Completes →
      Fragment.pieces context.dialect before
          (Script.fragments (first.script context)) =
        Fragment.pieces context.dialect before
          (Script.fragments (second.script context)) →
      first.setTree context before = second.setTree context before
  | before, ⟨left, operator, right, ordering, limit, offset⟩,
      ⟨left', operator', right', ordering', limit', offset'⟩,
      completes, completes', same => by
      obtain ⟨leftGoes, rightGoes, clauses, written⟩ :=
        Compound.exists_fragments_eq encloses completes
      obtain ⟨leftGoes', rightGoes', clauses', written'⟩ :=
        Compound.exists_fragments_eq encloses completes'
      rw [written, written'] at same
      obtain ⟨lefts, rest⟩ :=
        (left.nested encloses leftGoes).pieces_eq_of_enclosed
          (left'.nested encloses leftGoes') same
      have bound : (Fragment.values
          (Script.fragments (left.node.script context))).length =
          (Fragment.values
            (Script.fragments (left'.node.script context))).length := by
        rw [Fragment.length_values_eq context.dialect before, lefts,
          ← Fragment.length_values_eq]
      rw [Fragment.pieces_keyword_cons, Fragment.pieces_keyword_cons,
        List.cons.injEq] at rest
      obtain ⟨words, tails⟩ := rest
      have operators : operator = operator' :=
        SetOperator.render_keyword_injective (Piece.fixed.inj words)
      obtain ⟨rights, _⟩ :=
        (right.nested encloses rightGoes).pieces_eq_of_enclosed
          (right'.nested encloses rightGoes') tails
      rw [Compound.setTree, Compound.setTree, operators, ← bound,
        Operand.setTree_eq encloses before left left' leftGoes leftGoes' lefts,
        Operand.setTree_eq encloses _ right right' rightGoes rightGoes' rights]

end

namespace Database

/-- In PostgreSQL and MySQL, compound statements that compile to the same pieces
are trees of one shape, with the same set operators, whose `SELECT`s contributed
the same pieces. -/
theorem setTree_eq_of_pieces (database : Database)
    (preset : database.dialect = .postgres ∨ database.dialect = .mysql)
    {first second : Compound} {statement statement' : Statement}
    (compiled :
      (database.compile (.compound first)).result = .ok statement)
    (compiled' :
      (database.compile (.compound second)).result = .ok statement')
    (same : statement.pieces = statement'.pieces) :
    first.setTree database.context 0 = second.setTree database.context 0 := by
  have encloses : database.context.dialect.Encloses := by
    show database.dialect.Encloses
    rcases preset with preset | preset
    · rw [preset]
      exact Dialect.encloses_postgres
    · rw [preset]
      exact Dialect.encloses_mysql
  obtain ⟨completes, rfl⟩ := (compile_eq_ok_iff _ _ _).mp compiled
  obtain ⟨completes', rfl⟩ := (compile_eq_ok_iff _ _ _).mp compiled'
  rw [Statement.pieces_eq, Statement.pieces_eq] at same
  exact Compound.setTree_eq encloses 0 first second completes completes' same

/-- `SELECT * FROM "person" LIMIT ?` -/
def someone (count : Int64) : Select :=
  ⟨[], some (.source (.table ⟨⟨1⟩, none, "person", []⟩)), Expr.ofBool true, [],
    some count, none, false, false⟩

/-- `(… UNION …) EXCEPT …`, with limits of its own. -/
def someoneElse (first second third : Int64) : Compound :=
  ⟨.compound ⟨.select (someone first), .union, .select (someone second), [],
    none, none⟩, .except, .select (someone third), [], some third, none⟩

theorem setTree_eq_of_pieces_nested :
    ∃ statement statement',
      (compile ⟨.postgres, none⟩ (.compound (someoneElse 1 2 3))).result =
        .ok statement ∧
      (compile ⟨.postgres, none⟩ (.compound (someoneElse 7 8 9))).result =
        .ok statement' ∧
      statement.pieces = statement'.pieces ∧
      (someoneElse 1 2 3).setTree (Database.context ⟨.postgres, none⟩) 0 =
        (someoneElse 7 8 9).setTree (Database.context ⟨.postgres, none⟩) 0 :=
  ⟨_, _, rfl, rfl, rfl,
    setTree_eq_of_pieces ⟨.postgres, none⟩ (.inl rfl) rfl rfl rfl⟩

end Database

end SqlWeave
