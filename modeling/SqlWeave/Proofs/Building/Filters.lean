import Mathlib.Data.List.Induction
import SqlWeave.Dialect.Presets
import SqlWeave.Proofs.Building.Refinement
import SqlWeave.Proofs.Script.Scope

/-!
# Filters that accumulate

Each call that filters puts its predicate behind the filter that a statement
already has.  Constants fold away, so the filter is the constant false if one of
the predicates is, and otherwise the conjunction of the predicates that are not
the constant true; what is written follows the same three cases
(`Select.filter_accumulates`).
-/

namespace SqlWeave

namespace Expr

/-- The expressions under `AND`, from the left to the right.  Without any it is
the constant true. -/
def conjunction : List Expr → Expr
  | [] => ofBool true
  | first :: others => others.foldl (binary .and) first

/-- Whether a predicate is more than the constant true. -/
def narrows (predicate : Expr) : Bool := predicate.asBool? != some true

/-! ## Folding one predicate -/

theorem asBool?_eq_some_iff {expr : Expr} {constant : Bool} :
    expr.asBool? = some constant ↔ expr = ofBool constant := by
  constructor
  · exact eq_ofBool_of_asBool?
  · rintro rfl
    rfl

@[simp] theorem asBool?_ofBool (constant : Bool) :
    (ofBool constant).asBool? = some constant := rfl

@[simp] theorem false_both (right : Expr) :
    (ofBool false).both right = ofBool false := by
  rw [both, asBool?_ofBool]
  rcases right.asBool? with _ | _ | _ <;> rfl

@[simp] theorem both_true (left : Expr) : left.both (ofBool true) = left := by
  rw [both, asBool?_ofBool]
  rcases constant : left.asBool? with _ | _ | _
  · rfl
  · rfl
  · exact (eq_ofBool_of_asBool? constant).symm

@[simp] theorem both_false (left : Expr) :
    left.both (ofBool false) = ofBool false := by
  rw [both, asBool?_ofBool]
  rcases left.asBool? with _ | _ | _ <;> rfl

theorem both_of_asBool?_eq_none {left right : Expr}
    (first : left.asBool? = none) (second : right.asBool? = none) :
    left.both right = binary .and left right := by
  rw [both, first, second]

/-! ## Folding many predicates -/

theorem conjunction_append {earlier : List Expr} (present : earlier ≠ [])
    (last : Expr) :
    conjunction (earlier ++ [last]) =
      binary .and (conjunction earlier) last := by
  cases earlier with
  | nil => exact absurd rfl present
  | cons first others =>
      rw [List.cons_append, conjunction, List.foldl_append]
      rfl

/-- A conjunction is an operation, or its only operand. -/
theorem asBool?_conjunction {operands : List Expr} (present : operands ≠ [])
    (open_ : ∀ operand ∈ operands, operand.asBool? = none) :
    (conjunction operands).asBool? = none := by
  induction operands using List.reverseRecOn with
  | nil => exact absurd rfl present
  | append_singleton earlier last _ =>
      by_cases alone : earlier = []
      · subst alone
        exact open_ last (by simp)
      · rw [conjunction_append alone]
        rfl

theorem foldl_both_false (predicates : List Expr) :
    predicates.foldl both (ofBool false) = ofBool false := by
  induction predicates with
  | nil => rfl
  | cons predicate rest ih => rw [List.foldl_cons, false_both, ih]

/-- A predicate that is constantly false stays the filter, whatever follows. -/
theorem foldl_both_of_mem {predicates : List Expr} (filter : Expr)
    (never : ofBool false ∈ predicates) :
    predicates.foldl both filter = ofBool false := by
  obtain ⟨before, after, rfl⟩ := List.append_of_mem never
  rw [List.foldl_append, List.foldl_cons, both_false, foldl_both_false]

theorem asBool?_eq_none_of_mem_narrows {predicates : List Expr}
    (possible : ofBool false ∉ predicates) :
    ∀ operand ∈ predicates.filter narrows, operand.asBool? = none := by
  intro operand member
  obtain ⟨inside, narrowing⟩ := List.mem_filter.mp member
  rcases held : operand.asBool? with _ | _ | _
  · rfl
  · rw [eq_ofBool_of_asBool? held] at inside
    exact absurd inside possible
  · simp [narrows, held] at narrowing

theorem filter_narrows_eq_nil_iff {predicates : List Expr} :
    predicates.filter narrows = [] ↔
      ∀ predicate ∈ predicates, predicate = ofBool true := by
  rw [List.filter_eq_nil_iff]
  refine forall₂_congr fun predicate _ => ?_
  rw [narrows, bne_iff_ne, not_not, asBool?_eq_some_iff]

theorem foldl_both_of_not_mem {predicates : List Expr}
    (possible : ofBool false ∉ predicates) :
    predicates.foldl both (ofBool true) =
      conjunction (predicates.filter narrows) := by
  induction predicates using List.reverseRecOn with
  | nil => rfl
  | append_singleton earlier last ih =>
      have possible' : ofBool false ∉ earlier :=
        fun member => possible (List.mem_append_left _ member)
      rw [List.foldl_append, List.foldl_cons, List.foldl_nil, ih possible',
        List.filter_append]
      rcases constant : last.asBool? with _ | _ | _
      · -- The last predicate narrows: it joins those in front of it, if any.
        have narrowing : [last].filter narrows = [last] := by
          simp [narrows, constant]
        rw [narrowing]
        by_cases alone : earlier.filter narrows = []
        · rw [alone]
          rfl
        · rw [conjunction_append alone]
          exact both_of_asBool?_eq_none (asBool?_conjunction alone
            (asBool?_eq_none_of_mem_narrows possible')) constant
      · rw [eq_ofBool_of_asBool? constant] at possible
        exact absurd (by simp) possible
      · have idle : [last].filter narrows = [] := by simp [narrows, constant]
        rw [idle, List.append_nil, eq_ofBool_of_asBool? constant, both_true]

/-- A conjunction of predicates that narrow is no constant. -/
theorem asBool?_conjunction_narrows {predicates : List Expr}
    (possible : ofBool false ∉ predicates)
    (present : predicates.filter narrows ≠ []) :
    (conjunction (predicates.filter narrows)).asBool? = none :=
  asBool?_conjunction present
    (asBool?_eq_none_of_mem_narrows possible)

theorem foldl_both_eq_false_iff {predicates : List Expr} :
    predicates.foldl both (ofBool true) = ofBool false ↔
      ofBool false ∈ predicates := by
  constructor
  · intro never
    by_contra possible
    rw [foldl_both_of_not_mem possible] at never
    by_cases alone : predicates.filter narrows = []
    · rw [alone] at never
      cases never
    · have constant := asBool?_conjunction_narrows possible alone
      rw [never] at constant
      cases constant
  · exact foldl_both_of_mem (ofBool true)

end Expr

/-! ## Filtered statements -/

namespace Select

/-- The opening clauses of a statement: what is selected, and from what. -/
def headScript (context : Context) (select : Select) : Script :=
  select.itemsScript context ++
  Script.keyword .fromSources ++
  select.sourceScript context

/-- The clauses of a statement behind its filter. -/
def tailScript (context : Context) (select : Select) : Script :=
  orderingScript (OrderTerm.scripts context select.ordering) ++
  limitsScript context select.limit select.offset ++
  if select.forUpdate then Script.keyword .forUpdate else []

/-- Where the statement compiles, the clause is all that stands between its
opening clauses and those behind the filter. -/
def WritesFilter (context : Context) (select : Select)
    (clause : List Fragment) : Prop :=
  (select.script context).Completes →
    Script.fragments (select.script context) =
      Script.fragments (select.headScript (select.scope context)) ++ clause ++
        Script.fragments (select.tailScript (select.scope context))

theorem clausesScript_eq_filtered (context : Context) (select : Select) :
    select.clausesScript context =
      select.headScript context ++
        (filterScript select.filter.asBool? (select.filter.script context) ++
          select.tailScript context) := by
  simp only [clausesScript, headScript, tailScript, List.append_assoc]

theorem writesFilter_filterScript (context : Context) (select : Select) :
    select.WritesFilter context
      (Script.fragments (filterScript select.filter.asBool?
        (select.filter.script (select.scope context)))) := by
  intro completes
  obtain ⟨chain, admitted⟩ := admitted_of_completes completes
  have clauses := admitted.clauses
  rw [clausesScript_eq_filtered] at clauses
  obtain ⟨head, rest⟩ := (Script.completes_append _ _).mp clauses
  obtain ⟨filter, _⟩ := (Script.completes_append _ _).mp rest
  rw [admitted.fragments_eq, clausesScript_eq_filtered, head.fragments_append,
    filter.fragments_append, List.append_assoc]

/-- A constant filter is no condition, or one that nothing meets. -/
theorem writesFilter_of_eq_ofBool {select : Select} {constant : Bool}
    (filter : select.filter = Expr.ofBool constant) (context : Context) :
    select.WritesFilter context
      (Script.fragments (filterScript (some constant) [])) := by
  have written := writesFilter_filterScript context select
  rw [filter] at written
  cases constant <;> exact written

/-- The warning comes with a call that filters, if the filter is then constantly
false. -/
theorem filterAlwaysFalse_mem_events_iff (select : Select)
    (call : Refinement) :
    .filterAlwaysFalse ∈ (select.refine call).events ↔
      (∃ predicate, call = .restrict predicate) ∧
        (select.refine call).result.filter = Expr.ofBool false := by
  cases call with
  | restrict predicate => simp [refine, restrict, Expr.asBool?_eq_some_iff]
  | orderBy terms => simp [refine, orderBy, reordering]
  | limitTo limit =>
      cases held : select.limit <;>
        simp [refine, limitTo, replacement, held]
  | skip offset =>
      cases held : select.offset <;> simp [refine, skip, replacement, held]
  | distinctRows => simp [refine]
  | lockRows => simp [refine]
  | selectFrom chain => simp [refine]

/-- A new statement after calls. -/
def built (items : List SelectItem) (calls : List Refinement) : Select :=
  (ofItems items).refined calls

theorem filter_built (items : List SelectItem) (calls : List Refinement) :
    (built items calls).filter =
      (Refinement.predicates calls).foldl Expr.both (Expr.ofBool true) :=
  (ofItems items).filter_refined calls

theorem filter_built_eq_false_iff (items : List SelectItem)
    (calls : List Refinement) :
    (built items calls).filter = Expr.ofBool false ↔
      Expr.ofBool false ∈ Refinement.predicates calls := by
  rw [filter_built, Expr.foldl_both_eq_false_iff]

theorem result_refine_built (items : List SelectItem)
    (calls : List Refinement) (call : Refinement) :
    ((built items calls).refine call).result =
      built items (calls ++ [call]) := by
  rw [built, built, refined, refined, List.foldl_append]
  rfl

/-- The filter of a statement is constantly false if one of its predicates is,
constantly true if all of them are, and otherwise the conjunction of those that
are not constantly true, in the order of the calls.  Accordingly it is written
as `WHERE 1 = 0`, not at all, or behind `WHERE`.  A call warns if it filters and
one of the predicates so far is constantly false. -/
theorem filter_accumulates (items : List SelectItem)
    (calls : List Refinement) :
    (Expr.ofBool false ∈ Refinement.predicates calls →
      (built items calls).filter = Expr.ofBool false ∧
      ∀ context, (built items calls).WritesFilter context
        [.keyword .whereFilter, .keyword .alwaysFalse]) ∧
    ((∀ predicate ∈ Refinement.predicates calls,
        predicate = Expr.ofBool true) →
      (built items calls).filter = Expr.ofBool true ∧
      ∀ context, (built items calls).WritesFilter context []) ∧
    (Expr.ofBool false ∉ Refinement.predicates calls →
      (∃ predicate ∈ Refinement.predicates calls,
        predicate ≠ Expr.ofBool true) →
      (built items calls).filter =
        .conjunction ((Refinement.predicates calls).filter Expr.narrows) ∧
      ∀ context, (built items calls).WritesFilter context
        (.keyword .whereFilter ::
          Script.fragments ((built items calls).filter.script
            ((built items calls).scope context)))) ∧
    ∀ before call after, calls = before ++ call :: after →
      (.filterAlwaysFalse ∈ ((built items before).refine call).events ↔
        (∃ predicate, call = .restrict predicate) ∧
          Expr.ofBool false ∈ Refinement.predicates (before ++ [call])) := by
  refine ⟨?_, ?_, ?_, ?_⟩
  · intro never
    have filter := (filter_built_eq_false_iff items calls).mpr never
    exact ⟨filter, writesFilter_of_eq_ofBool filter⟩
  · intro always
    have possible : Expr.ofBool false ∉ Refinement.predicates calls :=
      fun never => nomatch always _ never
    have filter : (built items calls).filter = Expr.ofBool true := by
      rw [filter_built, Expr.foldl_both_of_not_mem possible,
        Expr.filter_narrows_eq_nil_iff.mpr always]
      rfl
    exact ⟨filter, writesFilter_of_eq_ofBool filter⟩
  · rintro possible ⟨predicate, member, narrowing⟩
    have present : (Refinement.predicates calls).filter Expr.narrows ≠ [] :=
      fun idle => narrowing
        (Expr.filter_narrows_eq_nil_iff.mp idle predicate member)
    have filter : (built items calls).filter =
        .conjunction ((Refinement.predicates calls).filter Expr.narrows) := by
      rw [filter_built, Expr.foldl_both_of_not_mem possible]
    have open_ : (built items calls).filter.asBool? = none := by
      rw [filter]
      exact Expr.asBool?_conjunction_narrows possible present
    refine ⟨filter, fun context completes => ?_⟩
    have written :=
      writesFilter_filterScript context (built items calls) completes
    rw [open_] at written
    exact written
  · rintro before call after -
    rw [filterAlwaysFalse_mem_events_iff, result_refine_built,
      filter_built_eq_false_iff]

end Select

/-- Books with a key. -/
def Table.books : Table :=
  ⟨⟨1⟩, none, "book",
    [⟨"id", none, .auto, true, false, false, false, none, none⟩]⟩

/-- Books from the first key on. -/
def Expr.booksFrom (first : Int64) : Expr :=
  .binary .ge (.field (.ofIndex .books ⟨0, Nat.one_pos⟩)) (.value (.int first))

/-- Books are filtered three times, once by nothing. -/
def Refinement.shelf : List Refinement :=
  [.restrict (.booksFrom 1), .limitTo 10, .restrict (.ofBool true),
    .restrict (.booksFrom 2)]

namespace Select

theorem filter_accumulates_shelf :
    Expr.ofBool false ∉ Refinement.predicates Refinement.shelf ∧
    (built [.source (.table .books)] Refinement.shelf).filter =
      .binary .and (.booksFrom 1) (.booksFrom 2) ∧
    ((built [.source (.table .books)] Refinement.shelf).script
      (.outermost .generic none)).Completes ∧
    .filterAlwaysFalse ∉ ((built [.source (.table .books)]
      Refinement.shelf.dropLast).refine (.restrict (.booksFrom 2))).events := by
  have possible : Expr.ofBool false ∉
      Refinement.predicates Refinement.shelf := by
    intro never
    have constant := List.mem_map_of_mem never (f := Expr.asBool?)
    revert constant
    decide
  have first : Expr.booksFrom 1 ∈ Refinement.predicates Refinement.shelf :=
    List.mem_cons_self
  obtain ⟨_, _, narrowed, warned⟩ :=
    filter_accumulates [.source (.table .books)] Refinement.shelf
  obtain ⟨filter, _⟩ := narrowed possible ⟨_, first, nofun⟩
  refine ⟨possible, filter, rfl, fun member => possible ?_⟩
  exact ((warned Refinement.shelf.dropLast _ [] rfl).mp member).2

end Select

end SqlWeave
