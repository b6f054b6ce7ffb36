import SqlWeave.Alias.Ref
import SqlWeave.Query.JoinKind

/-!
# Errors of statements

What can be wrong with a statement, found while it is built or while it is
compiled, and how each cause is worded.
-/

namespace SqlWeave

/-- A part that a statement lacks. -/
inductive Gap where
  /-- Nothing to select from. -/
  | noSource
  /-- A selected item that the `FROM` clause does not hold. -/
  | notInFrom (item : String)
  /-- Nothing that a join could extend. -/
  | nothingToJoin
  /-- No selected source is left to be joined. -/
  | allJoined
  /-- A join without the predicate that its kind needs. -/
  | noPredicate (kind : JoinKind) (source : String)
  deriving DecidableEq, Repr

/-- The wording of a gap. -/
def Gap.message : Gap → String
  | noSource => "SELECT without a FROM target"
  | notInFrom item =>
      item ++ " is selected but missing from the FROM clause"
  | nothingToJoin => "no FROM target to join onto"
  | allJoined => "every selected source is already joined"
  | noPredicate kind source =>
      kind.keyword.text ++ " of " ++ source ++ " has no ON predicate"

/-- An error of a statement. -/
inductive QueryError where
  /-- Two aliases of one scope claim the same name. -/
  | duplicateAlias (name : String)
  /-- An alias without a name that no scope has named. -/
  | unnamedAlias (id : AliasId)
  /-- A list where a single value is needed. -/
  | listAsParameter (length : Nat)
  /-- A list operand without items. -/
  | emptyList
  /-- No relation is known between two sources. -/
  | unrelated (left right : String)
  /-- A source has no column with this label. -/
  | unknownAttribute (source label : String)
  /-- The statement lacks a part. -/
  | incomplete (gap : Gap)
  /-- The dialect does not accept a clause. -/
  | notSupported (feature dialect : String)
  deriving DecidableEq, Repr

namespace QueryError

/-- The wording of an error. -/
def message : QueryError → String
  | duplicateAlias name => "Duplicate alias: " ++ name
  | unnamedAlias id =>
      "Alias name not set: " ++ id.display ++
        " is not registered in any alias scope"
  | listAsParameter length =>
      "Cannot bind value of type list of " ++ toString length ++
        " items as a single parameter"
  | emptyList => "Cannot bind value of type empty list"
  | unrelated left right =>
      "No relation declared between " ++ left ++ " and " ++ right
  | unknownAttribute source label =>
      source ++ " has no attribute '" ++ label ++ "'"
  | incomplete gap => "Incomplete query: " ++ gap.message
  | notSupported feature dialect =>
      feature ++ " is not supported by the " ++ dialect ++ " dialect"

/-- Whether the statement itself is at fault, whatever the database. -/
def isConstruction : QueryError → Bool
  | notSupported _ _ => false
  | _ => true

end QueryError

end SqlWeave
