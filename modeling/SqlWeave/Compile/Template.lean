import SqlWeave.Compile.Script
import SqlWeave.Dialect.Basic
import SqlWeave.Value.Text

/-!
# Statements as text

The fragments of a statement become its template, in which parameters are
numbered from one in the order of writing, and the values of its parameters in
the same order.  For people there is also a text with the values inlined.
-/

namespace SqlWeave

/-- The characters of a dotted name: its segments, each quoted. -/
def Dialect.pathChars (dialect : Dialect) (path : Path) : List Char :=
  ['.'].intercalate (path.segments.map dialect.quoteChars)

/-- A dotted name with its segments quoted. -/
def Dialect.quotePath (dialect : Dialect) (path : Path) : String :=
  String.ofList (dialect.pathChars path)

namespace Fragment

/-- The characters of a fragment; `index` is the number that it gets if it is a
parameter. -/
def chars (dialect : Dialect) (index : Nat) : Fragment → List Char
  | keyword word => word.render.toList
  | name path => dialect.pathChars path
  | parameter _ => (dialect.placeholder index).toList

/-- The characters of a fragment with the value of a parameter inlined. -/
def inlinedChars (dialect : Dialect) : Fragment → List Char
  | keyword word => word.render.toList
  | name path => dialect.pathChars path
  | parameter value => value.literal.toList

/-- The characters of fragments that follow `before` parameters. -/
def templateChars (dialect : Dialect) (before : Nat) :
    List Fragment → List Char
  | [] => []
  | fragment :: rest =>
      fragment.chars dialect (before + 1) ++
        templateChars dialect
          (if fragment.value?.isSome then before + 1 else before) rest

end Fragment

/-- A statement that was compiled for a dialect. -/
structure Statement where
  dialect : Dialect
  fragments : List Fragment

namespace Statement

/-- The text with placeholders. -/
def template (statement : Statement) : String :=
  String.ofList
    (Fragment.templateChars statement.dialect 0 statement.fragments)

/-- The values of the parameters in the order of their placeholders. -/
def values (statement : Statement) : List Value :=
  statement.fragments.filterMap Fragment.value?

/-- The text with the values in place of the placeholders, for people only. -/
def inlined (statement : Statement) : String :=
  String.ofList
    (statement.fragments.flatMap (Fragment.inlinedChars statement.dialect))

end Statement

end SqlWeave
