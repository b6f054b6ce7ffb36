import Mathlib.Data.List.Chain
import SqlWeave.Dialect.Presets
import SqlWeave.Proofs.Script.Blocks

/-!
# Ends of fragments

Whether two fragments may stand next to each other depends on the characters in
which they meet only.  Fragments are followed from end to end (`Fragment.Run`),
and those of a block neither start nor end with a space.  The spaces of a
keyword decide whether it can stand in front of a block, behind it or between
two of them, and what comes out is a block again, so the fragments of a
statement are one (`Operand.block`).
-/

namespace SqlWeave

/-- A character that would run together with another one of its kind: a letter,
a digit, or one that begins a placeholder. -/
def isWordChar (char : Char) : Bool :=
  char.isAlphanum || char == '?' || char == '$' || char == '%'

/-- How a fragment starts or ends. -/
inductive Edge where
  | space
  /-- A letter, a digit or a character of a placeholder. -/
  | word
  /-- Any other character. -/
  | mark
  deriving DecidableEq, Repr

/-- The kind of a character at the end of a fragment. -/
def Edge.ofChar (char : Char) : Edge :=
  if char = ' ' then .space else if isWordChar char then .word else .mark

/-- What ends in one way may meet what starts in the other. -/
def Edge.Fits (left right : Edge) : Prop := left = right → left = .mark

instance (left right : Edge) : Decidable (left.Fits right) :=
  inferInstanceAs (Decidable (_ → _))

namespace Edge

variable {left right : Edge}

theorem fits_of_ne_space (ends : left ≠ .space) (starts : right ≠ .word) :
    left.Fits right := by
  rintro rfl
  cases left with
  | mark => rfl
  | space => exact absurd rfl ends
  | word => exact absurd rfl starts

theorem fits_of_ne_word (ends : left ≠ .word) (starts : right ≠ .space) :
    left.Fits right := by
  rintro rfl
  cases left with
  | mark => rfl
  | space => exact absurd rfl starts
  | word => exact absurd rfl ends

end Edge

/-! ## Keywords -/

namespace Keyword

/-- The keyword is not empty and has no two spaces inside. -/
def Tidy (word : Keyword) : Prop :=
  word.render.toList ≠ [] ∧
    word.render.toList.IsChain fun first second =>
      ¬ (first = ' ' ∧ second = ' ')

instance (word : Keyword) : Decidable word.Tidy :=
  inferInstanceAs (Decidable (_ ∧ _))

/-- How the keyword starts. -/
def front (word : Keyword) : Edge :=
  (word.render.toList.head?.map .ofChar).getD .space

/-- How the keyword ends. -/
def back (word : Keyword) : Edge :=
  (word.render.toList.getLast?.map .ofChar).getD .space

/-- The keyword can be a block by itself. -/
def StandsAlone (word : Keyword) : Prop :=
  word.Tidy ∧ word.front ≠ .space ∧ word.back ≠ .space

/-- The keyword can stand in front of a block. -/
def Leads (word : Keyword) : Prop :=
  word.Tidy ∧ word.front ≠ .space ∧ word.back ≠ .word

/-- The keyword can stand behind a block. -/
def Trails (word : Keyword) : Prop :=
  word.Tidy ∧ word.front ≠ .word ∧ word.back ≠ .space

/-- The keyword can stand between two blocks. -/
def Joins (word : Keyword) : Prop :=
  word.Tidy ∧ word.front ≠ .word ∧ word.back ≠ .word

instance (word : Keyword) : Decidable word.StandsAlone :=
  inferInstanceAs (Decidable (_ ∧ _))

instance (word : Keyword) : Decidable word.Leads :=
  inferInstanceAs (Decidable (_ ∧ _))

instance (word : Keyword) : Decidable word.Trails :=
  inferInstanceAs (Decidable (_ ∧ _))

instance (word : Keyword) : Decidable word.Joins :=
  inferInstanceAs (Decidable (_ ∧ _))

end Keyword

/-! ## Runs of fragments -/

namespace Fragment

/-- The fragment writes something, and no two spaces inside. -/
def Tidy : Fragment → Prop
  | keyword word => word.Tidy
  | name path => path.segments ≠ []
  | parameter _ => True

/-- How the fragment starts: names with a quote, placeholders with a character
of their own. -/
def front : Fragment → Edge
  | keyword word => word.front
  | name _ => .mark
  | parameter _ => .word

/-- How the fragment ends. -/
def back : Fragment → Edge
  | keyword word => word.back
  | name _ => .mark
  | parameter _ => .word

/-- Fragments of which each fits the one in front of it, from the start of the
first to the end of the last. -/
inductive Run : Edge → Edge → List Fragment → Prop where
  | single (fragment : Fragment) (tidy : fragment.Tidy) :
      Run fragment.front fragment.back [fragment]
  | cons (fragment : Fragment) (tidy : fragment.Tidy) {front back : Edge}
      {rest : List Fragment} (fits : fragment.back.Fits front)
      (run : Run front back rest) : Run fragment.front back (fragment :: rest)

theorem Run.append {front left right back : Edge}
    {first second : List Fragment} (run : Run front left first)
    (fits : left.Fits right) (next : Run right back second) :
    Run front back (first ++ second) := by
  induction run with
  | single fragment tidy => exact .cons fragment tidy fits next
  | cons fragment tidy meets rest ih =>
      exact .cons fragment tidy meets (ih fits)

/-- Fragments that fit each other and neither start nor end with a space. -/
def Block (fragments : List Fragment) : Prop :=
  ∃ front back, Run front back fragments ∧ front ≠ .space ∧ back ≠ .space

namespace Block

variable {word : Keyword} {first second fragments : List Fragment}

theorem single (fragment : Fragment) (tidy : fragment.Tidy)
    (starts : fragment.front ≠ .space) (ends : fragment.back ≠ .space) :
    Block [fragment] :=
  ⟨_, _, .single fragment tidy, starts, ends⟩

theorem leading (leads : word.Leads) (block : Block fragments) :
    Block (.keyword word :: fragments) := by
  obtain ⟨tidy, starts, meets⟩ := leads
  obtain ⟨front, back, run, first, last⟩ := block
  have fits := Edge.fits_of_ne_word meets first
  exact ⟨_, _, .cons (.keyword word) tidy fits run, starts, last⟩

theorem trailing (block : Block fragments) (trails : word.Trails) :
    Block (fragments ++ [.keyword word]) := by
  obtain ⟨tidy, meets, ends⟩ := trails
  obtain ⟨front, back, run, first, last⟩ := block
  exact ⟨_, _, run.append (Edge.fits_of_ne_space last meets)
    (.single (.keyword word) tidy), first, ends⟩

theorem between (left : Block first) (joins : word.Joins)
    (right : Block second) : Block (first ++ .keyword word :: second) := by
  obtain ⟨tidy, meets, meets'⟩ := joins
  obtain ⟨front, back, run, starts, ends⟩ := left
  obtain ⟨front', back', run', starts', ends'⟩ := right
  have rest : Run word.front back' (.keyword word :: second) :=
    .cons (.keyword word) tidy (Edge.fits_of_ne_word meets' starts') run'
  exact ⟨_, _, run.append (Edge.fits_of_ne_space ends meets) rest, starts,
    ends'⟩

theorem enclosed (block : Block fragments) :
    Block (.keyword .openParen :: (fragments ++ [.keyword .closeParen])) :=
  (block.trailing (by decide)).leading (by decide)

end Block

end Fragment

/-! ## Statements -/

/-- Keywords in the roles that their spaces allow. -/
def Keyword.Roles.spacing : Keyword.Roles :=
  ⟨StandsAlone, Leads, Trails, Joins⟩

theorem Keyword.Roles.clausal_spacing : spacing.Clausal where
  alone := by simp only [spacing]; decide
  leads := by simp only [spacing]; decide
  trails := by simp only [spacing]; decide
  direction direction := by cases direction <;> simp only [spacing] <;> decide
  nulls nulls := by cases nulls <;> simp only [spacing] <;> decide
  joins := by simp only [spacing]; decide
  kind kind := by cases kind <;> simp only [spacing] <;> decide
  operator operator := by cases operator <;> simp only [spacing] <;> decide

theorem Dialect.operates_of_mem_presets {dialect : Dialect}
    (preset : dialect ∈ presets) : dialect.Operates .spacing := by
  simp only [presets, List.mem_cons, List.not_mem_nil, or_false] at preset
  constructor
  · intro operator
    simp only [Keyword.Roles.spacing]
    rcases preset with rfl | rfl | rfl | rfl <;> cases operator <;> decide
  · intro operator
    simp only [Keyword.Roles.spacing]
    rcases preset with rfl | rfl | rfl | rfl <;> cases operator <;> decide

/-- If the script completes, its fragments are a block. -/
def Script.Spaced (script : Script) : Prop :=
  script.Completes → Fragment.Block script.fragments

theorem Script.Spaced.blocks : Script.Blocks .spacing Script.Spaced where
  clausal := Keyword.Roles.clausal_spacing
  keyword := by
    rintro word ⟨tidy, starts, ends⟩ _
    exact .single (.keyword word) tidy starts ends
  name named := fun _ => .single (.name _) named nofun nofun
  parameter value := fun _ => .single (.parameter value) trivial nofun nofun
  fail := by
    intro before error completes
    have failing := ((completes_append _ _).mp completes).2
    exact absurd failing (not_completes_fail error)
  notes := by
    intro events script inner completes
    obtain ⟨reported, written⟩ := (completes_append _ _).mp completes
    rw [reported.fragments_append, fragments_notes]
    exact inner written
  parens := by
    intro script inner completes
    have within := (completes_parens _).mp completes
    rw [within.fragments_parens]
    exact (inner within).enclosed
  leading := by
    intro word script leads inner completes
    obtain ⟨first, written⟩ := (completes_append _ _).mp completes
    rw [first.fragments_append]
    exact (inner written).leading leads
  trailing := by
    intro word script inner trails completes
    obtain ⟨written, _⟩ := (completes_append _ _).mp completes
    rw [written.fragments_append]
    exact (inner written).trailing trails
  between := by
    intro word first second left joins right completes
    obtain ⟨before, last⟩ := (completes_append _ _).mp completes
    obtain ⟨start, _⟩ := (completes_append _ _).mp before
    rw [before.fragments_append, start.fragments_append, List.append_assoc]
    exact (left start).between joins (right last)

/-- The fragments of a statement in which each `SELECT` selects something are a
block. -/
theorem Operand.block (context : Context)
    (preset : context.dialect ∈ Dialect.presets) (operand : Operand)
    (lists : ∀ select enclosing bare,
      ⟨.select select, enclosing, bare⟩ ∈ operand.parts → select.Lists)
    (completes : (operand.node.script context).Completes) :
    Fragment.Block (operand.node.script context).fragments := by
  refine operand.node_script_block Script.Spaced.blocks context
    (Dialect.operates_of_mem_presets preset) ?_ completes
  rintro ⟨_, enclosing, bare⟩ member select rfl
  exact .inl (lists select enclosing bare member)

end SqlWeave
