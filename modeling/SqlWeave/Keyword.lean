/-!
# Keywords

A keyword is a piece of fixed SQL syntax together with the spaces around it.
Keywords between two parts of a statement have a space on both sides, leading
ones only behind and trailing ones only in front, so that neighbours neither
run together nor stand two spaces apart.
-/

namespace SqlWeave

/-- A piece of fixed SQL syntax and its spacing. -/
structure Keyword where
  text : String
  spaceBefore : Bool
  spaceAfter : Bool
  deriving DecidableEq, Repr, Inhabited

namespace Keyword

/-- A keyword without spaces around it. -/
def bare (text : String) : Keyword := ⟨text, false, false⟩

/-- A keyword between two parts of a statement. -/
def between (text : String) : Keyword := ⟨text, true, true⟩

/-- A keyword in front of what it applies to. -/
def leading (text : String) : Keyword := ⟨text, false, true⟩

/-- A keyword behind what it applies to. -/
def trailing (text : String) : Keyword := ⟨text, true, false⟩

/-- The keyword with its spaces. -/
def render (keyword : Keyword) : String :=
  (if keyword.spaceBefore then " " else "") ++ keyword.text ++
    (if keyword.spaceAfter then " " else "")

/-! ## The keywords of statements -/

def select : Keyword := leading "SELECT"
def distinct : Keyword := leading "DISTINCT"
def allColumns : Keyword := bare "*"
def fromSources : Keyword := between "FROM"
def whereFilter : Keyword := between "WHERE"
def orderBy : Keyword := between "ORDER BY"
def limit : Keyword := between "LIMIT"
def offset : Keyword := between "OFFSET"
def forUpdate : Keyword := trailing "FOR UPDATE"
def asName : Keyword := between "AS"
def onPredicate : Keyword := between "ON"
def ascending : Keyword := trailing "ASC"
def descending : Keyword := trailing "DESC"
def nullsFirst : Keyword := trailing "NULLS FIRST"
def nullsLast : Keyword := trailing "NULLS LAST"
def null : Keyword := bare "NULL"
def alwaysFalse : Keyword := bare "1 = 0"
def comma : Keyword := leading ","
def openParen : Keyword := bare "("
def closeParen : Keyword := bare ")"

end Keyword

end SqlWeave
