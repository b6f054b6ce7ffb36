/-!
# Dotted names

A path names a schema, a table or a column by its segments, outermost first.
Segments are plain text; quoting is left to the dialect.
-/

namespace SqlWeave

/-- A dotted name such as `schema.table.column`. -/
structure Path where
  segments : List String
  deriving DecidableEq, Repr, Inhabited

namespace Path

/-- The path with one more segment at its end. -/
def push (path : Path) (segment : String) : Path :=
  ⟨path.segments ++ [segment]⟩

/-- Whether the path has no segment. -/
def isEmpty (path : Path) : Bool := path.segments.isEmpty

/-- The segments joined by dots, for people to read. -/
def display (path : Path) : String := ".".intercalate path.segments

end Path

end SqlWeave
