import SqlWeave.Dialect.Basic

/-!
# Known dialects

Standard SQL, SQLite, PostgreSQL and MySQL, and the engine names under which
settings ask for them.
-/

namespace SqlWeave.Dialect

/-- Standard SQL without optional clauses. -/
def generic : Dialect where
  name := "generic"
  placeholders := .questionMark
  openQuote := '"'
  closeQuote := '"'
  operandParens := .never
  forUpdate := false
  limitMax := none
  nullsOrdering := false
  operators := []
  typeNames := []

/-- SQLite. -/
def sqlite : Dialect :=
  { generic with
    name := "sqlite"
    operandParens := .compounds
    limitMax := some (-1)
    nullsOrdering := true
    operators := [(.binary .ilike, .between "LIKE")]
    typeNames := [(.bool, "INTEGER"), (.uuid, "TEXT")] }

/-- PostgreSQL. -/
def postgres : Dialect :=
  { generic with
    name := "postgresql"
    placeholders := .numbered
    operandParens := .always
    forUpdate := true
    nullsOrdering := true
    typeNames :=
      [(.auto, "SERIAL"), (.bigAuto, "BIGSERIAL"), (.blob, "BYTEA"),
        (.dateTime, "TIMESTAMP"), (.decimal, "NUMERIC"),
        (.double, "DOUBLE PRECISION"), (.uuid, "UUID"),
        (.uuidBinary, "BYTEA")] }

/-- The quote of names in MySQL. -/
def graveAccent : Char := '\x60'

/-- MySQL. -/
def mysql : Dialect :=
  { generic with
    name := "mysql"
    placeholders := .format
    openQuote := graveAccent
    closeQuote := graveAccent
    operandParens := .always
    forUpdate := true
    limitMax := some Int64.maxValue
    operators :=
      [(.binary .ilike, .between "LIKE"), (.binary .xor, .between "XOR")]
    typeNames :=
      [(.auto, "INTEGER AUTO_INCREMENT"), (.bigAuto, "BIGINT AUTO_INCREMENT"),
        (.bool, "BOOL"), (.double, "DOUBLE PRECISION"), (.float, "FLOAT"),
        (.uuid, "VARCHAR(40)"), (.uuidBinary, "VARBINARY(16)")] }

/-- The dialects that come with the library. -/
def presets : List Dialect := [generic, sqlite, postgres, mysql]

/-- What follows the last dot of an engine name. -/
def lastSegment (engine : List Char) : List Char :=
  (engine.reverse.takeWhile (· != '.')).reverse

/-- The dialect that an engine name asks for.  Only what follows the last dot
counts, in either case; the known names are ASCII. -/
def ofEngine? (engine : String) : Option Dialect :=
  let name := String.ofList ((lastSegment engine.toList).map Char.toLower)
  if name = "" ∨ name = "generic" then some generic
  else if name = "sqlite" ∨ name = "sqlite3" then some sqlite
  else if name = "postgres" ∨ name = "postgresql" ∨ name = "psycopg2" then
    some postgres
  else if name = "mysql" then some mysql
  else none

end SqlWeave.Dialect
