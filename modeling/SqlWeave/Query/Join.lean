import SqlWeave.Query.Relation

/-!
# Joining sources

A chain is extended by one source at a time.  A join that needs a predicate and
is given none asks for a relation between the new source and those of the
chain, the latest first.
-/

namespace SqlWeave.Chain

/-- The answer of `lookup` for the first of `candidates` that is related to
`source`; if none is, the error for the first candidate. -/
def firstRelation (lookup : RelationLookup) (source : Source) :
    List Source → Except QueryError Expr
  | [] => .error (.unrelated "empty join chain" source.display)
  | [candidate] => lookup candidate source
  | candidate :: others =>
      match lookup candidate source with
      | .ok predicate => .ok predicate
      | .error error =>
          match firstRelation lookup source others with
          | .ok predicate => .ok predicate
          | .error _ => .error error

/-- Join a source, asking `lookup` for the predicate if the kind needs one. -/
def joinUsing (chain : Chain) (source : Source) (kind : JoinKind)
    (lookup : RelationLookup) : Except QueryError Join :=
  if kind.needsPredicate then do
    let predicate ← firstRelation lookup source chain.sources.reverse
    pure ⟨chain, kind, source, some predicate⟩
  else pure ⟨chain, kind, source, none⟩

/-- Join a source on a predicate, or on a declared relation without one. -/
def joinOn (chain : Chain) (source : Source) (kind : JoinKind)
    (predicate : Option Expr) : Except QueryError Join :=
  match predicate with
  | some predicate => .ok ⟨chain, kind, source, some predicate⟩
  | none => chain.joinUsing source kind RelationLookup.declared

end SqlWeave.Chain
