import Mathlib.Data.List.Chain
import SqlWeave.Proofs.Script.Blocks
import SqlWeave.Proofs.Script.Formation

/-!
# Layout of statements

Two blocks of a statement never meet without a keyword in between, so no name
and no parameter of a statement stands right next to another one
(`Operand.spread`).
-/

namespace SqlWeave

namespace Fragment

/-- The fragment would run together with another one of the kind: a name, a
parameter, or the keyword that begins and ends with a digit. -/
def IsSolid : Fragment → Prop
  | keyword word => word = .alwaysFalse
  | name _ => True
  | parameter _ => True

/-- Solid fragments have others between them, and every name has a segment. -/
structure Spread (fragments : List Fragment) : Prop where
  apart : fragments.IsChain fun first second =>
    ¬ (first.IsSolid ∧ second.IsSolid)
  named : ∀ path, .name path ∈ fragments → path.segments ≠ []

namespace Spread

theorem nil : Spread [] := ⟨.nil, fun _ member => nomatch member⟩

/-- A keyword can stand in front of anything. -/
theorem keyword_cons {word : Keyword} {rest : List Fragment}
    (separates : word ≠ .alwaysFalse) (spread : Spread rest) :
    Spread (.keyword word :: rest) := by
  constructor
  · apply spread.apart.cons
    intro next _ solid
    exact separates solid.1
  · intro path member
    rcases List.mem_cons.mp member with equal | later
    · cases equal
    · exact spread.named path later

/-- What starts with a keyword can stand behind anything. -/
theorem append_keyword {word : Keyword} {first second : List Fragment}
    (separates : word ≠ .alwaysFalse) (front : Spread first)
    (back : Spread second) : Spread (first ++ .keyword word :: second) := by
  have rest := back.keyword_cons separates
  constructor
  · apply front.apart.append rest.apart
    intro last _ next found solid
    cases found
    exact separates solid.2
  · intro path member
    rcases List.mem_append.mp member with earlier | later
    · exact front.named path earlier
    · exact rest.named path later

theorem enclosed {fragments : List Fragment} (spread : Spread fragments) :
    Spread (Fragment.enclosed fragments) :=
  (append_keyword (by decide) spread .nil).keyword_cons (by decide)

end Spread

end Fragment

/-- A script that is laid out as a block. -/
inductive Script.Laid : Script → Prop where
  | keyword (word : Keyword) : Laid (Script.keyword word)
  | name {path : Path} (named : path.segments ≠ []) : Laid (Script.name path)
  | parameter (value : Value) : Laid (Script.parameter value)
  /-- What stands before a failure does not matter. -/
  | fail (before : Script) (error : QueryError) :
      Laid (before ++ Script.fail error)
  | notes (events : List Event) {script : Script} (inner : Laid script) :
      Laid (Script.notes events ++ script)
  | parens {script : Script} (inner : Laid script) : Laid script.parens
  | leading {word : Keyword} (separates : word ≠ .alwaysFalse)
      {script : Script} (inner : Laid script) :
      Laid (Script.keyword word ++ script)
  | trailing {word : Keyword} {script : Script} (inner : Laid script)
      (separates : word ≠ .alwaysFalse) :
      Laid (script ++ Script.keyword word)
  | between {word : Keyword} {first second : Script} (left : Laid first)
      (separates : word ≠ .alwaysFalse) (right : Laid second) :
      Laid (first ++ Script.keyword word ++ second)

namespace Script.Laid

/-- The fragments of a block that completes are spread. -/
theorem spread {script : Script} (laid : Laid script)
    (completes : Completes script) : Fragment.Spread (fragments script) := by
  induction laid with
  | keyword word => exact ⟨.singleton _, by simp⟩
  | name named => exact ⟨.singleton _, by simpa using named⟩
  | parameter value => exact ⟨.singleton _, by simp⟩
  | fail before error =>
      have failing := ((completes_append _ _).mp completes).2
      exact absurd failing (not_completes_fail error)
  | notes events inner ih =>
      obtain ⟨reported, written⟩ := (completes_append _ _).mp completes
      rw [reported.fragments_append, fragments_notes]
      exact ih written
  | parens inner ih =>
      have within := (completes_parens _).mp completes
      rw [within.fragments_parens]
      exact (ih within).enclosed
  | @leading word separates _ inner ih =>
      obtain ⟨front, written⟩ := (completes_append _ _).mp completes
      rw [front.fragments_append]
      exact (ih written).keyword_cons separates
  | @trailing word _ inner separates ih =>
      obtain ⟨written, _⟩ := (completes_append _ _).mp completes
      rw [written.fragments_append]
      exact (ih written).append_keyword separates .nil
  | @between word _ _ left separates right leftIH rightIH =>
      obtain ⟨front, last⟩ := (completes_append _ _).mp completes
      obtain ⟨first, _⟩ := (completes_append _ _).mp front
      rw [front.fragments_append, first.fragments_append, List.append_assoc]
      exact (leftIH first).append_keyword separates (rightIH last)

end Script.Laid

/-! ## Statements -/

/-- Keywords that separate what stands around them: all but the constant filter,
which can only be a block by itself. -/
def Keyword.Roles.separating : Keyword.Roles where
  alone _ := True
  leads word := word ≠ .alwaysFalse
  trails word := word ≠ .alwaysFalse
  joins word := word ≠ .alwaysFalse

theorem Keyword.Roles.clausal_separating : separating.Clausal where
  alone _ _ := trivial
  leads := by simp only [separating]; decide
  trails := by simp only [separating]; decide
  direction direction := by
    cases direction <;> simp only [separating] <;> decide
  nulls nulls := by cases nulls <;> simp only [separating] <;> decide
  joins := by simp only [separating]; decide
  kind kind := by cases kind <;> simp only [separating] <;> decide
  operator operator := by cases operator <;> simp only [separating] <;> decide

theorem Script.Laid.blocks : Script.Blocks .separating Script.Laid where
  clausal := Keyword.Roles.clausal_separating
  keyword _ := .keyword _
  name := .name
  parameter := .parameter
  fail := .fail
  notes := .notes
  parens := .parens
  leading separates inner := .leading separates inner
  trailing := .trailing
  between := .between

/-- No operator of the dialect is spelled like the constant filter. -/
def Dialect.SpellsApart (dialect : Dialect) : Prop :=
  ∀ operator, dialect.operatorKeyword operator ≠ .alwaysFalse

/-- The fragments of a statement that completes are spread. -/
theorem Operand.spread (context : Context)
    (apart : context.dialect.SpellsApart) (operand : Operand)
    (completes : (operand.node.script context).Completes) :
    Fragment.Spread (operand.node.script context).fragments := by
  have operates : context.dialect.Operates .separating :=
    ⟨fun _ => apart _, fun _ => apart _⟩
  have leads : Keyword.Roles.separating.leads .fromSources := by
    simp only [Keyword.Roles.separating]
    decide
  have laid := operand.node_script_block Script.Laid.blocks context operates
    fun _ _ _ _ => .inr leads
  exact laid.spread completes

end SqlWeave
