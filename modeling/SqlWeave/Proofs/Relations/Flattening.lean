import SqlWeave.Dialect.Presets
import SqlWeave.Proofs.Relations.Inference
import SqlWeave.Proofs.Script.Compiled

/-!
# Chains laid flat

A chain is nested to the left, so that its latest link is the outermost, but it
is written from its first source on: each link adds its keyword, its source and,
if it has a predicate, `ON` with the predicate.  Sources, fields and script of a
chain are three recursions that all lay it flat in this order, and the
parameters of its parts are numbered as they come (`Chain.laid_flat`).
-/

namespace SqlWeave

/-! ## Numbers of parameters -/

namespace Fragment

/-- How many parameters are among the fragments. -/
def parameters (fragments : List Fragment) : Nat :=
  (fragments.filterMap value?).length

theorem parameters_cons (fragment : Fragment) (rest : List Fragment) :
    parameters (fragment :: rest) =
      (if fragment.value?.isSome then 1 else 0) + parameters rest := by
  cases fragment <;>
    simp [parameters, List.filterMap_cons, value?, Nat.add_comm]

/-- Joined fragments are numbered on. -/
theorem templateChars_append (dialect : Dialect) (before : Nat)
    (first second : List Fragment) :
    templateChars dialect before (first ++ second) =
      templateChars dialect before first ++
        templateChars dialect (before + parameters first) second := by
  induction first generalizing before with
  | nil => rfl
  | cons fragment rest ih =>
      rw [List.cons_append, templateChars, templateChars, ih,
        List.append_assoc, parameters_cons]
      cases fragment.value?.isSome <;> simp [Nat.add_assoc]

/-- The characters of pieces of a statement, each of them numbered on from the
parameters of all that come before it. -/
def piecesChars (dialect : Dialect) : Nat → List (List Fragment) → List Char
  | _, [] => []
  | before, piece :: rest =>
      templateChars dialect before piece ++
        piecesChars dialect (before + parameters piece) rest

theorem templateChars_flatten (dialect : Dialect) (before : Nat)
    (pieces : List (List Fragment)) :
    templateChars dialect before pieces.flatten =
      piecesChars dialect before pieces := by
  induction pieces generalizing before with
  | nil => rfl
  | cons piece rest ih =>
      rw [List.flatten_cons, templateChars_append, ih, piecesChars]

end Fragment

/-! ## Calls that add a link -/

/-- A call that puts one more link at the end of a chain. -/
inductive LinkCall where
  /-- Join on a predicate, or on a relation that is looked for. -/
  | joined (call : JoinCall)
  /-- Put the link on as it is, whether or not its kind needs a predicate. -/
  | plain (source : Source) (kind : JoinKind) (predicate : Option Expr)

namespace LinkCall

/-- The source that is joined. -/
def source : LinkCall → Source
  | joined call => call.source
  | plain source _ _ => source

/-- The kind of the join. -/
def kind : LinkCall → JoinKind
  | joined call => call.kind
  | plain _ kind _ => kind

/-- The predicate that the call gives. -/
def predicate? : LinkCall → Option Expr
  | joined (.on _ _ predicate) => predicate
  | joined (.related _ _ _) => none
  | plain _ _ predicate => predicate

end LinkCall

namespace Chain

/-- Extend the chain by one call. -/
def linkBy (chain : Chain) : LinkCall → Except QueryError Join
  | .joined call => chain.joinBy call
  | .plain right kind predicate => .ok ⟨chain, kind, right, predicate⟩

/-- Extend the chain by calls, one after the other. -/
def linkAll (chain : Chain) : List LinkCall → Except QueryError Chain
  | [] => .ok chain
  | call :: rest => do
      let join ← chain.linkBy call
      (Chain.join join).linkAll rest

end Chain

/-- The link is what the call made of the chain in front of it. -/
structure Join.Adds (link : Join) (call : LinkCall) : Prop where
  made : link.left.linkBy call = .ok link
  kind : link.kind = call.kind
  right : link.right = call.source
  /-- A predicate that is given is the predicate of the link. -/
  given : ∀ predicate, call.predicate? = some predicate →
    link.predicate = some predicate

/-! ## Parts of a chain -/

mutual

/-- The source that a chain starts with. -/
def Chain.first : Chain → Source
  | .source source => source
  | .join join => join.first

/-- The source that a join starts with. -/
def Join.first : Join → Source
  | ⟨left, _, _, _⟩ => left.first

end

theorem Join.first_eq (join : Join) : join.first = join.left.first := by
  cases join
  rfl

/-- The script of what a link adds. -/
def Join.linkScript (context : Context) (link : Join) : Script :=
  Script.keyword link.kind.keyword ++ link.right.script context ++
    match link.predicate with
    | some predicate => Script.keyword .onPredicate ++ predicate.script context
    | none =>
        if link.kind.needsPredicate then
          Script.fail (.incomplete (.noPredicate link.kind link.right.display))
        else []

/-- The fragments that a link adds, part by part. -/
def Join.linkPieces (context : Context) (link : Join) : List (List Fragment) :=
  [[.keyword link.kind.keyword], (link.right.script context).fragments] ++
    match link.predicate with
    | some predicate =>
        [[.keyword .onPredicate], (predicate.script context).fragments]
    | none => []

/-- The fragments of a chain, part by part in the order of its links. -/
def Chain.pieces (context : Context) (chain : Chain) : List (List Fragment) :=
  (chain.first.script context).fragments ::
    chain.links.flatMap (Join.linkPieces context)

/-- The source and the predicate of a link can be written, and it has a
predicate if its kind needs one. -/
def Join.LinkCompletes (context : Context) (link : Join) : Prop :=
  (link.right.script context).Completes ∧
    match link.predicate with
    | some predicate => (predicate.script context).Completes
    | none => link.kind.needsPredicate = false

/-! ## Laying a chain flat -/

mutual

theorem Chain.sources_eq : (chain : Chain) →
    chain.sources = chain.first :: chain.links.map Join.right
  | .source _ => rfl
  | .join join => Join.sources_eq join

theorem Join.sources_eq : (join : Join) →
    join.sources = join.first :: join.links.map Join.right
  | ⟨left, _, _, _⟩ => by
      rw [Join.sources, Join.first, Join.links, left.sources_eq,
        List.map_append]
      rfl

end

mutual

theorem Chain.fields_eq : (chain : Chain) →
    chain.fields = chain.sources.flatMap Source.fields
  | .source source => (List.flatMap_singleton Source.fields source).symm
  | .join join => Join.fields_eq join

theorem Join.fields_eq : (join : Join) →
    join.fields = join.sources.flatMap Source.fields
  | ⟨left, _, right, _⟩ => by
      rw [Join.fields, Join.sources, left.fields_eq, List.flatMap_append,
        List.flatMap_singleton]

end

mutual

theorem Chain.script_eq_links (context : Context) : (chain : Chain) →
    chain.script context = chain.first.script context ++
      chain.links.flatMap (Join.linkScript context)
  | .source _ => (List.append_nil _).symm
  | .join join => Join.script_eq_links context join

theorem Join.script_eq_links (context : Context) : (join : Join) →
    join.script context = join.first.script context ++
      join.links.flatMap (Join.linkScript context)
  | ⟨left, kind, right, predicate⟩ => by
      have last : Join.script context ⟨left, kind, right, predicate⟩ =
          left.script context ++
            Join.linkScript context ⟨left, kind, right, predicate⟩ := by
        cases predicate <;> simp [Join.script, Join.linkScript]
      rw [last, left.script_eq_links context, Join.first, Join.links,
        List.flatMap_append, List.flatMap_singleton, List.append_assoc]

end

/-! ## Writing links -/

namespace Join

variable {context : Context} {link : Join}

theorem completes_linkScript_iff :
    (link.linkScript context).Completes ↔ link.LinkCompletes context := by
  rw [linkScript, LinkCompletes, Script.completes_append,
    Script.completes_append, and_iff_right (Script.completes_keyword _)]
  cases link.predicate with
  | some predicate => simp
  | none => cases link.kind.needsPredicate <;> simp

theorem fragments_linkScript (completes : link.LinkCompletes context) :
    (link.linkScript context).fragments =
      (link.linkPieces context).flatten := by
  obtain ⟨source, rest⟩ := completes
  have front : (Script.keyword link.kind.keyword ++
      link.right.script context : Script).Completes := by
    simpa using source
  rw [linkScript, front.fragments_append,
    (Script.completes_keyword _).fragments_append, linkPieces]
  cases held : link.predicate with
  | some predicate =>
      simp [(Script.completes_keyword _).fragments_append]
  | none =>
      rw [held] at rest
      simp [show link.kind.needsPredicate = false from rest]

/-- Links are written one after the other. -/
theorem links_written (links : List Join) :
    (Script.Completes (links.flatMap (linkScript context)) ↔
      ∀ link ∈ links, link.LinkCompletes context) ∧
    ((∀ link ∈ links, link.LinkCompletes context) →
      Script.fragments (links.flatMap (linkScript context)) =
        (links.flatMap (linkPieces context)).flatten) := by
  induction links with
  | nil => simp
  | cons link rest ih =>
      obtain ⟨completes, fragments⟩ := ih
      rw [List.flatMap_cons, List.flatMap_cons, Script.completes_append,
        completes, completes_linkScript_iff, List.forall_mem_cons]
      refine ⟨Iff.rfl, ?_⟩
      rintro ⟨first, others⟩
      have goes := completes_linkScript_iff.mpr first
      rw [goes.fragments_append, fragments others, fragments_linkScript first,
        List.flatten_append]

end Join

namespace Chain

variable {context : Context} {chain target : Chain}

theorem completes_iff_links (context : Context) (chain : Chain) :
    (chain.script context).Completes ↔
      (chain.first.script context).Completes ∧
        ∀ link ∈ chain.links, link.LinkCompletes context := by
  rw [script_eq_links, Script.completes_append,
    (Join.links_written chain.links).1]

theorem fragments_eq_pieces (completes : (chain.script context).Completes) :
    (chain.script context).fragments = (chain.pieces context).flatten := by
  obtain ⟨first, links⟩ := (completes_iff_links context chain).mp completes
  rw [script_eq_links, first.fragments_append,
    (Join.links_written chain.links).2 links]
  rfl

/-! ## Chains that calls make -/

/-- One call adds one link, to the chain as it was. -/
theorem linkBy_adds {call : LinkCall} {join : Join}
    (made : chain.linkBy call = .ok join) :
    join.left = chain ∧ join.Adds call := by
  cases call with
  | plain right kind predicate =>
      cases made
      exact ⟨rfl, rfl, rfl, rfl, fun _ given => given⟩
  | joined call =>
      have joined : chain.joinBy call = .ok join := made
      obtain ⟨left, answers⟩ := joinBy_answers joined
      refine ⟨left, by rw [left]; exact made, answers.kind, answers.right, ?_⟩
      intro predicate given
      match call, given, joined with
      | .on _ _ (some _), given, joined =>
          cases joined
          exact given

/-- Calls keep the chain and add one link each. -/
theorem links_of_linkAll {calls : List LinkCall}
    (built : chain.linkAll calls = .ok target) :
    target.first = chain.first ∧
      ∃ added, target.links = chain.links ++ added ∧
        List.Forall₂ Join.Adds added calls := by
  induction calls generalizing chain with
  | nil =>
      cases built
      exact ⟨rfl, [], (List.append_nil _).symm, .nil⟩
  | cons call rest ih =>
      rw [linkAll] at built
      cases made : chain.linkBy call with
      | error error =>
          rw [made] at built
          cases built
      | ok join =>
          rw [made] at built
          obtain ⟨left, adds⟩ := linkBy_adds made
          obtain ⟨first, added, links, each⟩ := ih built
          constructor
          · rw [first, Chain.first, join.first_eq, left]
          · refine ⟨join :: added, ?_, .cons adds each⟩
            rw [links, Chain.links, join.links_eq, left, List.append_assoc]
            rfl

/-- A chain that starts with a source and is extended by calls has the sources
of these calls behind it, in their order, and their fields in the same order.
It is written if its first source and all links can be; what is written then are
the first source and, for each link, its keyword, its source and its predicate
behind `ON`, and their parameters are numbered as they come. -/
theorem laid_flat (first : Source) (calls : List LinkCall) (chain : Chain)
    (built : (Chain.source first).linkAll calls = .ok chain) :
    chain.first = first ∧
    List.Forall₂ Join.Adds chain.links calls ∧
    chain.sources = first :: calls.map LinkCall.source ∧
    chain.fields =
      (first :: calls.map LinkCall.source).flatMap Source.fields ∧
    ∀ context,
      ((chain.script context).Completes ↔
        (first.script context).Completes ∧
          ∀ link ∈ chain.links, link.LinkCompletes context) ∧
      ((chain.script context).Completes →
        (chain.script context).fragments = (chain.pieces context).flatten ∧
        ∀ dialect before,
          Fragment.templateChars dialect before
              (chain.script context).fragments =
            Fragment.piecesChars dialect before (chain.pieces context)) := by
  obtain ⟨start, added, links, each⟩ := links_of_linkAll built
  rw [Chain.links, List.nil_append] at links
  rw [Chain.first] at start
  subst links
  have rights : chain.links.map Join.right = calls.map LinkCall.source :=
    List.forall₂_eq_eq_eq ▸ List.rel_map (fun _ _ adds => adds.right) each
  have sources : chain.sources = first :: calls.map LinkCall.source := by
    rw [chain.sources_eq, start, rights]
  refine ⟨start, each, sources, by rw [chain.fields_eq, sources], ?_⟩
  intro context
  refine ⟨start ▸ completes_iff_links context chain, ?_⟩
  intro completes
  have pieces := fragments_eq_pieces completes
  refine ⟨pieces, ?_⟩
  intro dialect before
  rw [pieces, Fragment.templateChars_flatten]

end Chain

/-- The room has the number. -/
def Expr.roomed (number : Int64) : Expr :=
  .binary .eq (.field (.ofIndex .rooms ⟨0, Nat.one_pos⟩)) (.value (.int number))

namespace Chain

/-- A department past the rooms, on the declared relation, and between rooms on
their numbers. -/
def moves : List LinkCall :=
  [.plain (.table .rooms) .leftOuter (some (.roomed 7)),
    .joined (.on (.table .departments) .inner none),
    .joined (.on (.table .rooms) .leftOuter (some (.roomed 8)))]

/-- The chain that these calls make. -/
def moved : Chain :=
  .join ⟨.join ⟨.join ⟨.source (.table .employees), .leftOuter, .table .rooms,
        some (.roomed 7)⟩, .inner, .table .departments, some .worksIn⟩,
      .leftOuter, .table .rooms, some (.roomed 8)⟩

/-- Each part of the chain stands where its call does, and the numbers of the
rooms are numbered as they come. -/
theorem laid_flat_moved :
    (Chain.source (.table .employees)).linkAll moves = .ok moved ∧
    moved.sources = [.table .employees, .table .rooms, .table .departments,
      .table .rooms] ∧
    String.ofList (Fragment.templateChars .postgres 0
        (moved.script (.outermost .postgres none)).fragments) =
      "\"emp\" LEFT OUTER JOIN \"room\" ON \"room\".\"id\" = $1" ++
        " INNER JOIN \"dept\" ON \"emp\".\"dept_id\" = \"dept\".\"id\"" ++
        " LEFT OUTER JOIN \"room\" ON \"room\".\"id\" = $2" := by
  have built : (Chain.source (.table .employees)).linkAll moves = .ok moved :=
    rfl
  obtain ⟨_, _, sources, _, written⟩ := laid_flat _ _ _ built
  have completes :
      (moved.script (.outermost .postgres none)).Completes := rfl
  obtain ⟨_, numbered⟩ := (written _).2 completes
  refine ⟨built, sources, ?_⟩
  rw [numbered]
  decide +kernel

end Chain

end SqlWeave
