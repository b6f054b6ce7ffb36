import SqlWeave.Document.Basic
import SqlWeave.Toml.Moment

/-!
# Tables of a TOML file

A TOML file builds its tables piece by piece, through headers and dotted keys.
What may still be added to a table depends on how it came into being, so tables
remember it while the file is read.  They also keep the order of their keys,
because a certain first key makes a table a date or a time.
-/

namespace SqlWeave.Toml

/-- How a table came into being. -/
inductive Origin where
  /-- It has a header of its own, or braces. -/
  | explicit
  /-- It was passed on the way to the table of a header. -/
  | passed
  /-- It was named by a dotted key. -/
  | dotted
  deriving DecidableEq, Repr

mutual

/-- What a key of a table stands for. -/
inductive Node where
  /-- A value without parts. -/
  | scalar (document : Document)
  /-- A date or a time, as it is written. -/
  | moment (written : String)
  | list (items : List Node)
  /-- A table in braces, which is complete. -/
  | inline (table : Table)
  | table (table : Table)
  /-- A table for each header in double brackets; `latest` is still open. -/
  | tables (latest : Table) (earlier : List Table)

/-- A table that is being built, with its keys in the order they came. -/
structure Table where
  origin : Origin
  entries : List (String × Node)

end

/-! ## Documents of tables -/

/-- A table whose first key is this one stands for a date or a time. -/
def momentKey : String := "$__toml_private_datetime"

/-- The node of the first entry, if it makes its table a date or a time. -/
def momentNode? : List (String × Node) → Option Node
  | (key, node) :: _ => if key = momentKey then some node else none
  | [] => none

/-- The document of a date or a time that a string holds. -/
def Node.heldMoment? : Node → Option Document
  | .scalar (.text held) =>
      (Text.Scan.readAll scanMoment held).map Document.text
  | _ => none

mutual

/-- The document of a node, unless a date or a time in it cannot be read. -/
def Node.toDocument? : Node → Option Document
  | .scalar document => some document
  | .moment written => some (.text written)
  | .list items => (Node.toDocuments? items).map Document.list
  | .inline table => table.toDocument?
  | .table table => table.toDocument?
  | .tables latest earlier => do
      let last ← latest.toDocument?
      let others ← Table.toDocuments? earlier
      pure (.list (last :: others).reverse)

/-- The documents of several nodes. -/
def Node.toDocuments? : List Node → Option (List Document)
  | [] => some []
  | node :: rest => do
      let document ← node.toDocument?
      let documents ← Node.toDocuments? rest
      pure (document :: documents)

/-- The document of a table.  In one that stands for a date or a time, nothing
but that is read. -/
def Table.toDocument? : Table → Option Document
  | ⟨_, entries⟩ =>
      match momentNode? entries with
      | some node => node.heldMoment?
      | none => (Node.toPairs? entries).map Document.ofPairs

/-- The documents of several tables. -/
def Table.toDocuments? : List Table → Option (List Document)
  | [] => some []
  | table :: rest => do
      let document ← table.toDocument?
      let documents ← Table.toDocuments? rest
      pure (document :: documents)

/-- The documents of the entries of a table. -/
def Node.toPairs? : List (String × Node) → Option (List (String × Document))
  | [] => some []
  | (key, node) :: rest => do
      let document ← node.toDocument?
      let pairs ← Node.toPairs? rest
      pure ((key, document) :: pairs)

end

/-! ## Building tables -/

namespace Table

/-- A table without entries. -/
def empty (origin : Origin) : Table := ⟨origin, []⟩

/-- The node under a key. -/
def get? (table : Table) (key : String) : Option Node :=
  Entries.get? key table.entries

/-- Set the node under a key in a list of entries; a new key comes last. -/
def putEntry (key : String) (node : Node) :
    List (String × Node) → List (String × Node)
  | [] => [(key, node)]
  | (held, old) :: rest =>
      if held = key then (key, node) :: rest
      else (held, old) :: putEntry key node rest

/-- Set the node under a key; a new key comes last. -/
def put (table : Table) (key : String) (node : Node) : Table :=
  { table with entries := putEntry key node table.entries }

/-- Set the node under a key, which comes last even if it was there before. -/
def putLast (table : Table) (key : String) (node : Node) : Table :=
  { table with
    entries := table.entries.filter (fun entry => entry.1 != key) ++
      [(key, node)] }

/-- Change the table at the end of a path.  Tables that are missing on the way
come into being as `origin` says; values end the way, and dotted keys do not
enter tables that are explicit. -/
def changeAt (origin : Origin) (change : Table → Option Table) :
    List String → Table → Option Table
  | [], table => change table
  | key :: path, table => do
      match table.get? key with
      | none =>
          let inner ← changeAt origin change path (empty origin)
          pure (table.put key (.table inner))
      | some (.table inner) =>
          if origin = .dotted ∧ inner.origin = .explicit then none
          else
            let inner ← changeAt origin change path inner
            pure (table.put key (.table inner))
      | some (.tables latest earlier) =>
          let latest ← changeAt origin change path latest
          pure (table.put key (.tables latest earlier))
      | some _ => none

/-- Add a value under a dotted key.  A key is set once, and a dotted key only
adds to tables that dotted keys made. -/
def insert (table : Table) (path : List String) (key : String)
    (node : Node) : Option Table :=
  changeAt .dotted (fun inner =>
    if (inner.origin == .dotted) == path.isEmpty then none
    else if (inner.get? key).isSome then none
    else some (inner.put key node)) path table

end Table

/-- A file that is being read: the finished tables, and the table that keys are
added to. -/
structure Builder where
  root : Table
  current : Table
  /-- The table that `current` will stand in. -/
  parent : List String
  /-- The key that it will stand under; without one it is the root. -/
  key : Option String
  /-- Whether its header has double brackets. -/
  repeated : Bool

namespace Builder

/-- A file of which nothing has been read. -/
def start : Builder where
  root := Table.empty .explicit
  current := Table.empty .explicit
  parent := []
  key := none
  repeated := false

/-- Put the current table where it belongs.  One that was passed before gets a
new place behind the other keys. -/
def close (builder : Builder) : Option Table :=
  match builder.key with
  | none => some builder.current
  | some key =>
      builder.root.changeAt .passed (fun parent =>
        match builder.repeated, parent.get? key with
        | true, none => some (parent.put key (.tables builder.current []))
        | true, some (.tables latest earlier) =>
            some (parent.put key
              (.tables builder.current (latest :: earlier)))
        | false, none => some (parent.put key (.table builder.current))
        | false, some (.table held) =>
            if held.origin = .passed then
              some (parent.putLast key (.table builder.current))
            else none
        | _, _ => none) builder.parent

/-- The node at the end of a path, if everything on the way is a table. -/
def nodeAt? (key : String) : List String → Table → Option Node
  | [], table => table.get? key
  | step :: path, table =>
      match table.get? step with
      | some (.table inner) => nodeAt? key path inner
      | some (.tables latest _) => nodeAt? key path latest
      | _ => none

/-- Whether values stand in the way of a path. -/
def blocked : List String → Table → Bool
  | [], _ => false
  | step :: path, table =>
      match table.get? step with
      | none => false
      | some (.table inner) => blocked path inner
      | some (.tables latest _) => blocked path latest
      | some _ => true

/-- Go on with the table of a header.  A table has one header at most; one that
was only passed keeps what it holds. -/
def openTable (builder : Builder) (parent : List String) (key : String) :
    Option Builder := do
  let root ← builder.close
  if blocked parent root then none
  else
    match nodeAt? key parent root with
    | none => pure ⟨root, Table.empty .explicit, parent, some key, false⟩
    | some (.table held) =>
        if held.origin = .passed then
          pure ⟨root, ⟨.explicit, held.entries⟩, parent, some key, false⟩
        else none
    | some _ => none

/-- Go on with one more table of a header in double brackets. -/
def openRepeated (builder : Builder) (parent : List String) (key : String) :
    Option Builder := do
  let root ← builder.close
  if blocked parent root then none
  else
    match nodeAt? key parent root with
    | none | some (.tables _ _) =>
        pure ⟨root, Table.empty .explicit, parent, some key, true⟩
    | some _ => none

/-- Add a value to the current table. -/
def add (builder : Builder) (path : List String) (key : String)
    (node : Node) : Option Builder := do
  let current ← builder.current.insert path key node
  pure { builder with current := current }

/-- The document of the file. -/
def finish (builder : Builder) : Option Document := do
  let root ← builder.close
  root.toDocument?

end Builder

end SqlWeave.Toml
