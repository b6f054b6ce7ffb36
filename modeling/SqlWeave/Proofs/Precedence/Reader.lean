import SqlWeave.Proofs.Precedence.Phrase

/-!
# Reading by shifting and reducing

A database reads with a stack of the operators that still wait for the end of
their last operand.  An operator between two operands first completes those on
the stack that bind at least as tightly.  Any phrase that respects the
precedences is what this reader makes of its tokens, so a text has at most one
reading (`Precedences.Reads.unique`).
-/

namespace SqlWeave

/-- A token of an expression: an operator, or what stands for an operand. -/
inductive Token where
  | word (word : Keyword)
  | atom (phrase : Phrase)

/-- An operator that waits for the end of its last operand. -/
inductive Frame where
  | unary (word : Keyword)
  | binary (word : Keyword) (left : Phrase)

namespace Frame

/-- The operator that waits. -/
def word : Frame → Keyword
  | unary word => word
  | binary word _ => word

/-- The operation, once its last operand is there. -/
def fill : Frame → Phrase → Phrase
  | unary word, last => .unary word last
  | binary word left, last => .binary word left last

end Frame

namespace Precedences

/-- Complete the innermost operators that bind at least as tightly as `word`. -/
def reduce (table : Precedences) (word : Keyword) :
    List Frame → Phrase → List Frame × Phrase
  | [], phrase => ([], phrase)
  | frame :: frames, phrase =>
      if table.level word ≤ table.level frame.word then
        table.reduce word frames (frame.fill phrase)
      else (frame :: frames, phrase)

/-- Read tokens, given the operators that wait, innermost first, and the operand
that was read last unless an operator was. -/
def read (table : Precedences) :
    List Frame → Option Phrase → List Token → Option Phrase
  | frames, none, .word word :: rest =>
      table.read (.unary word :: frames) none rest
  | frames, none, .atom phrase :: rest => table.read frames (some phrase) rest
  | frames, some phrase, .word word :: rest =>
      let reduced := table.reduce word frames phrase
      table.read (.binary word reduced.2 :: reduced.1) none rest
  | frames, some phrase, [] =>
      some (frames.foldl (fun last frame => frame.fill last) phrase)
  | _, _, _ => none

end Precedences

namespace Phrase

/-- The tokens of a phrase; what stands in parentheses is one of them. -/
def tokens : Phrase → List Token
  | unary word inner => .word word :: inner.tokens
  | binary word left right => left.tokens ++ .word word :: right.tokens
  | atom => [.atom atom]

/-- The operators that wait when the last token of the phrase was read. -/
def pending : Phrase → List Frame
  | unary word inner => inner.pending ++ [.unary word]
  | binary word left right => right.pending ++ [.binary word left]
  | _ => []

/-- The last operand of the phrase. -/
def last : Phrase → Phrase
  | unary _ inner => inner.last
  | binary _ _ right => right.last
  | atom => atom

variable {table : Precedences} {phrase left right : Phrase}

theorem foldl_pending (phrase : Phrase) (frames : List Frame) :
    (phrase.pending ++ frames).foldl (fun last frame => frame.fill last)
        phrase.last =
      frames.foldl (fun last frame => frame.fill last) phrase := by
  induction phrase generalizing frames with
  | single fragments => rfl
  | group inner => rfl
  | unary word inner ih =>
      rw [pending, last, List.append_assoc, ih]
      rfl
  | binary word left right leftIH rightIH =>
      rw [pending, last, List.append_assoc, rightIH]
      rfl

/-- An operator completes a phrase all of whose operators bind as tightly. -/
theorem reduce_pending {word : Keyword}
    (tight : ∀ earlier ∈ phrase.rightEdge,
      table.level word ≤ table.level earlier) (frames : List Frame) :
    table.reduce word (phrase.pending ++ frames) phrase.last =
      table.reduce word frames phrase := by
  induction phrase generalizing frames with
  | single fragments => rfl
  | group inner => rfl
  | unary other inner ih =>
      rw [rightEdge, List.forall_mem_cons] at tight
      rw [pending, last, List.append_assoc, ih tight.2]
      exact if_pos tight.1
  | binary other left right leftIH rightIH =>
      rw [rightEdge, List.forall_mem_cons] at tight
      rw [pending, last, List.append_assoc, rightIH tight.2]
      exact if_pos tight.1

/-- The operators that begin a phrase bind tighter than the innermost one that
waits for it. -/
def Continues (table : Precedences) (frames : List Frame) (phrase : Phrase) :
    Prop :=
  ∀ frame ∈ frames.head?, ∀ later ∈ phrase.leftEdge,
    table.level frame.word < table.level later

/-- What waits for a phrase goes on waiting when its first operator comes. -/
theorem Continues.reduce {word : Keyword} {frames : List Frame}
    (continues : Continues table frames (.binary word left right))
    (phrase : Phrase) : table.reduce word frames phrase = (frames, phrase) := by
  cases frames with
  | nil => rfl
  | cons frame rest =>
      have below := continues frame rfl word List.mem_cons_self
      exact if_neg (Nat.not_le_of_lt below)

/-- After the tokens of a phrase its operators wait as the phrase says. -/
theorem Respects.read_tokens (respects : phrase.Respects table)
    {frames : List Frame} (continues : Continues table frames phrase)
    (rest : List Token) :
    table.read frames none (phrase.tokens ++ rest) =
      table.read (phrase.pending ++ frames) (some phrase.last) rest := by
  induction phrase generalizing frames rest with
  | single fragments => rfl
  | group inner => rfl
  | unary word inner ih =>
      obtain ⟨above, respected⟩ := respects
      have inside : Continues table (.unary word :: frames) inner := by
        intro frame first
        cases first
        exact above
      rw [pending, last, List.append_assoc]
      exact ih respected inside rest
  | binary word left right leftIH rightIH =>
      obtain ⟨before, after, respectedLeft, respectedRight⟩ := respects
      have first : Continues table frames left :=
        fun frame innermost later member =>
          continues frame innermost later (List.mem_cons_of_mem _ member)
      have second : Continues table (.binary word left :: frames) right := by
        intro frame innermost
        cases innermost
        exact after
      have reduced : table.reduce word (left.pending ++ frames) left.last =
          (frames, left) := by
        rw [reduce_pending before, continues.reduce]
      rw [tokens, List.append_assoc, leftIH respectedLeft first,
        List.cons_append, Precedences.read, reduced,
        rightIH respectedRight second, pending, last, List.append_assoc]
      rfl

/-- The reader makes of the tokens of a phrase the phrase, if it respects the
precedences. -/
theorem Respects.read_eq (respects : phrase.Respects table) :
    table.read [] none phrase.tokens = some phrase := by
  have continues : Continues table [] phrase := fun _ first => nomatch first
  have run := respects.read_tokens continues []
  rw [List.append_nil] at run
  have closed := phrase.foldl_pending []
  rw [List.append_nil] at run closed
  rw [run, Precedences.read, closed]
  rfl

end Phrase

/-! ## Tokens of a text -/

/-- What stands for an operand by itself. -/
def Phrase.isAtom : Phrase → Bool
  | single _ | group _ => true
  | _ => false

namespace Token

/-- The text of a token. -/
def fragments : Token → List Fragment
  | .word operator => [.keyword operator]
  | .atom phrase => phrase.fragments

/-- Operators and operands are such. -/
def Formed (table : Precedences) : Token → Prop
  | .word operator => operator ∈ table.rows.flatten
  | .atom phrase => phrase.isAtom = true ∧ phrase.Formed table

end Token

namespace Phrase

variable {table : Precedences} {phrase other : Phrase}

theorem flatMap_tokens (phrase : Phrase) :
    phrase.tokens.flatMap Token.fragments = phrase.fragments := by
  induction phrase with
  | single fragments => simp [tokens, Token.fragments]
  | group inner => simp [tokens, Token.fragments]
  | unary word inner ih =>
      simp [tokens, Token.fragments, fragments, ih]
  | binary word left right leftIH rightIH =>
      simp [tokens, Token.fragments, fragments, leftIH, rightIH]

theorem Formed.tokens_formed (formed : phrase.Formed table) :
    ∀ token ∈ phrase.tokens, token.Formed table := by
  induction phrase with
  | single fragments =>
      intro token member
      rw [List.mem_singleton.mp member]
      exact ⟨rfl, formed⟩
  | group inner =>
      intro token member
      rw [List.mem_singleton.mp member]
      exact ⟨rfl, formed⟩
  | unary word inner ih =>
      exact List.forall_mem_cons.mpr ⟨formed.1.1, ih formed.2⟩
  | binary word left right leftIH rightIH =>
      rw [tokens, List.forall_mem_append, List.forall_mem_cons]
      exact ⟨leftIH formed.2.1, formed.1.1, rightIH formed.2.2⟩

/-- An atom cannot be split where its parentheses are nested. -/
theorem Formed.indivisible (formed : phrase.Formed table)
    (atom : phrase.isAtom = true) :
    Fragment.Indivisible phrase.fragments := by
  cases phrase with
  | single fragments => exact IsOperand.indivisible formed
  | group inner => exact formed.2.nested.indivisible_enclosed
  | unary word inner => cases atom
  | binary word left right => cases atom

/-- An atom does not begin with an operator. -/
theorem Formed.front_ne_word {word : Keyword}
    (formed : phrase.Formed table) (atom : phrase.isAtom = true)
    (known : word ∈ table.rows.flatten) (rest after : List Fragment) :
    phrase.fragments ++ rest ≠ .keyword word :: after := by
  intro front
  cases phrase with
  | unary word inner => cases atom
  | binary word left right => cases atom
  | group inner =>
      rw [fragments, Fragment.enclosed, List.cons_append, List.cons.injEq,
        Fragment.keyword.injEq] at front
      exact table.free word known (front.1 ▸ by decide)
  | single fragments =>
      cases fragments with
      | nil => exact IsOperand.ne_nil formed rfl
      | cons head tail =>
          rw [Phrase.fragments, List.cons_append, List.cons.injEq] at front
          rw [Formed, front.1] at formed
          exact table.free word known formed.reserved_of_keyword

/-- Of two atoms at the front of a text neither is longer. -/
theorem Formed.fragments_eq_of_append (formed : phrase.Formed table)
    (atom : phrase.isAtom = true) (formed' : other.Formed table)
    (atom' : other.isAtom = true) {rest rest' : List Fragment}
    (texts : phrase.fragments ++ rest = other.fragments ++ rest') :
    phrase.fragments = other.fragments := by
  rcases List.append_eq_append_iff.mp texts with
    ⟨middle, longer, _⟩ | ⟨middle, longer, _⟩
  · rcases formed'.indivisible atom' _ _ longer formed.nested with
      empty | empty
    · exact absurd empty formed.ne_nil
    · rw [longer, empty, List.append_nil]
  · rcases formed.indivisible atom _ _ longer formed'.nested with
      empty | empty
    · exact absurd empty formed'.ne_nil
    · rw [longer, empty, List.append_nil]

/-- Atoms with the same text are the same if what stands in parentheses is. -/
theorem Formed.eq_of_atoms (formed : phrase.Formed table)
    (atom : phrase.isAtom = true) (formed' : other.Formed table)
    (atom' : other.isAtom = true)
    (groups : ∀ inner inner', phrase = group inner → other = group inner' →
      inner.fragments = inner'.fragments → inner = inner')
    (same : phrase.fragments = other.fragments) : phrase = other := by
  cases phrase with
  | unary word inner => cases atom
  | binary word left right => cases atom
  | single fragments =>
      cases other with
      | unary word inner => cases atom'
      | binary word left right => cases atom'
      | single fragments' => exact congrArg single same
      | group inner' =>
          have operand : IsOperand fragments := formed
          rw [show fragments = _ from same] at operand
          exact absurd operand (formed'.2.not_isOperand_enclosed formed'.1)
  | group inner =>
      cases other with
      | unary word inner => cases atom'
      | binary word left right => cases atom'
      | single fragments' =>
          have operand : IsOperand fragments' := formed'
          rw [show fragments' = _ from same.symm] at operand
          exact absurd operand (formed.2.not_isOperand_enclosed formed.1)
      | group inner' =>
          rw [groups inner inner' rfl rfl (Fragment.enclosed_injective same)]

end Phrase

namespace Token

variable {table : Precedences} {first second : Token}

/-- The first token of a text is determined by the text, if what stands in
parentheses is. -/
theorem Formed.eq_of_append (formed : first.Formed table)
    (formed' : second.Formed table)
    (groups : ∀ inner inner', first = .atom (.group inner) →
      second = .atom (.group inner') →
      inner.fragments = inner'.fragments → inner = inner')
    {rest rest' : List Fragment}
    (texts : first.fragments ++ rest = second.fragments ++ rest') :
    first = second := by
  cases first with
  | word operator =>
      cases second with
      | word operator' =>
          rw [Fragment.keyword.inj (List.cons.inj texts).1]
      | atom phrase' =>
          exact absurd texts.symm
            (formed'.2.front_ne_word formed'.1 formed _ _)
  | atom phrase =>
      cases second with
      | word operator' =>
          exact absurd texts (formed.2.front_ne_word formed.1 formed' _ _)
      | atom phrase' =>
          have same := formed.2.fragments_eq_of_append formed.1 formed'.2
            formed'.1 texts
          refine congrArg atom
            (formed.2.eq_of_atoms formed.1 formed'.2 formed'.1 ?_ same)
          intro inner inner' equal equal'
          exact groups inner inner' (congrArg atom equal) (congrArg atom equal')

theorem Formed.ne_nil (formed : first.Formed table) : first.fragments ≠ [] := by
  cases first with
  | word operator => exact List.cons_ne_nil _ _
  | atom phrase => exact formed.2.ne_nil

/-- The tokens of a text are determined by the text, if what stands in
parentheses is. -/
theorem eq_of_flatMap {tokens tokens' : List Token}
    (formed : ∀ token ∈ tokens, token.Formed table)
    (formed' : ∀ token ∈ tokens', token.Formed table)
    (groups : ∀ inner inner', .atom (.group inner) ∈ tokens →
      .atom (.group inner') ∈ tokens' →
      inner.fragments = inner'.fragments → inner = inner')
    (texts : tokens.flatMap fragments = tokens'.flatMap fragments) :
    tokens = tokens' := by
  induction tokens generalizing tokens' with
  | nil =>
      cases tokens' with
      | nil => rfl
      | cons second rest' =>
          rw [List.flatMap_nil, List.flatMap_cons] at texts
          exact absurd (List.append_eq_nil_iff.mp texts.symm).1
            (formed' second List.mem_cons_self).ne_nil
  | cons first rest ih =>
      cases tokens' with
      | nil =>
          rw [List.flatMap_nil, List.flatMap_cons] at texts
          exact absurd (List.append_eq_nil_iff.mp texts).1
            (formed first List.mem_cons_self).ne_nil
      | cons second rest' =>
          rw [List.forall_mem_cons] at formed formed'
          rw [List.flatMap_cons, List.flatMap_cons] at texts
          have same : first = second := by
            refine formed.1.eq_of_append formed'.1 ?_ texts
            intro inner inner' equal equal'
            exact groups inner inner' (equal ▸ List.mem_cons_self)
              (equal' ▸ List.mem_cons_self)
          subst same
          rw [ih formed.2 formed'.2 ?_ (List.append_cancel_left texts)]
          intro inner inner' member member'
          exact groups inner inner' (List.mem_cons_of_mem _ member)
            (List.mem_cons_of_mem _ member')

end Token

namespace Phrase

variable {table : Precedences}

theorem Formed.of_group_mem {phrase inner : Phrase}
    (formed : phrase.Formed table) (respects : phrase.Respects table)
    (member : .atom (.group inner) ∈ phrase.tokens) :
    inner.Formed table ∧ inner.Respects table ∧
      inner.fragments.length < phrase.fragments.length := by
  induction phrase with
  | single fragments => simp [tokens] at member
  | group held =>
      have equal : group inner = group held :=
        Token.atom.inj (List.mem_singleton.mp member)
      cases equal
      refine ⟨formed.2, respects, ?_⟩
      simp only [fragments, Fragment.enclosed, List.length_cons,
        List.length_append]
      omega
  | unary word held ih =>
      have inside : .atom (.group inner) ∈ held.tokens := by
        simpa [tokens] using member
      obtain ⟨innerFormed, innerRespects, shorter⟩ :=
        ih formed.2 respects.2 inside
      exact ⟨innerFormed, innerRespects, Nat.lt_succ_of_lt shorter⟩
  | binary word left right leftIH rightIH =>
      have inside : .atom (.group inner) ∈ left.tokens ∨
          .atom (.group inner) ∈ right.tokens := by
        simpa [tokens] using member
      obtain ⟨_, _, respectsLeft, respectsRight⟩ := respects
      rcases inside with inside | inside
      · obtain ⟨innerFormed, innerRespects, shorter⟩ :=
          leftIH formed.2.1 respectsLeft inside
        refine ⟨innerFormed, innerRespects, ?_⟩
        simp only [fragments, List.length_append, List.length_cons]
        omega
      · obtain ⟨innerFormed, innerRespects, shorter⟩ :=
          rightIH formed.2.2 respectsRight inside
        refine ⟨innerFormed, innerRespects, ?_⟩
        simp only [fragments, List.length_append, List.length_cons]
        omega

/-- A text is that of one phrase at most that respects the precedences: what
stands in parentheses is shorter, and the reader makes one phrase of the
tokens. -/
theorem Respects.eq_of_fragments {phrase other : Phrase}
    (formed : phrase.Formed table) (formed' : other.Formed table)
    (respects : phrase.Respects table) (respects' : other.Respects table)
    (texts : phrase.fragments = other.fragments) : phrase = other := by
  have tokens : phrase.tokens = other.tokens := by
    refine Token.eq_of_flatMap formed.tokens_formed formed'.tokens_formed ?_ ?_
    · intro inner inner' member member' same
      obtain ⟨innerFormed, innerRespects, shorter⟩ :=
        formed.of_group_mem respects member
      obtain ⟨innerFormed', innerRespects', _⟩ :=
        formed'.of_group_mem respects' member'
      exact eq_of_fragments innerFormed innerFormed' innerRespects
        innerRespects' same
    · rw [flatMap_tokens, flatMap_tokens, texts]
  have read := respects.read_eq
  rw [tokens, respects'.read_eq] at read
  exact (Option.some.inj read).symm
termination_by phrase.fragments.length

end Phrase

/-- A text has at most one reading. -/
theorem Precedences.Reads.unique {table : Precedences}
    {fragments : List Fragment} {reading other : Reading Keyword Keyword}
    (reads : table.Reads fragments reading)
    (reads' : table.Reads fragments other) : reading = other := by
  obtain ⟨phrase, formed, respects, text, tree⟩ := reads
  obtain ⟨phrase', formed', respects', text', tree'⟩ := reads'
  have same := respects.eq_of_fragments formed formed' respects'
    (text.trans text'.symm)
  rw [← tree, ← tree', same]

end SqlWeave
