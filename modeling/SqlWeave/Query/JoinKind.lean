import SqlWeave.Keyword

/-!
# Kinds of joins
-/

namespace SqlWeave

/-- The kind of a join. -/
inductive JoinKind where
  | inner
  | leftOuter
  | rightOuter
  | full
  | fullOuter
  | cross
  | natural
  | lateral
  | leftLateral
  deriving DecidableEq, Repr

namespace JoinKind

/-- Joins are inner joins unless another kind is asked for. -/
def usual : JoinKind := inner

/-- The keyword between the sides of a join. -/
def keyword : JoinKind → Keyword
  | inner => .between "INNER JOIN"
  | leftOuter => .between "LEFT OUTER JOIN"
  | rightOuter => .between "RIGHT OUTER JOIN"
  | full => .between "FULL JOIN"
  | fullOuter => .between "FULL OUTER JOIN"
  | cross => .between "CROSS JOIN"
  | natural => .between "NATURAL JOIN"
  | lateral => .between "LATERAL"
  | leftLateral => .between "LEFT JOIN LATERAL"

/-- Whether a join of this kind must have a predicate. -/
def needsPredicate : JoinKind → Bool
  | cross | natural | lateral => false
  | _ => true

end JoinKind

end SqlWeave
