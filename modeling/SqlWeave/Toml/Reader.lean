import SqlWeave.Toml.Moment
import SqlWeave.Toml.Number
import SqlWeave.Toml.Table
import SqlWeave.Toml.Word

/-!
# Reading TOML

A file is read line by line: headers open tables, and pairs of keys and values
are added to the table that was opened last.  The result is the document of the
whole file.
-/

namespace SqlWeave.Toml

mutual

/-- Read a value.  Values may still be nested below `depth` levels; `bound`
exceeds the number of characters left. -/
def scanValue : Nat → Nat → Text.Scan Node
  | 0, _ => failure
  | bound + 1, depth => do
      match ← Text.Scan.peek with
      | some '"' | some '\'' => pure (.scalar (.text (← scanString bound)))
      | some '[' =>
          if depth = 0 then failure
          Text.Scan.exactly '['
          pure (.list (← scanItems bound (depth - 1)))
      | some '\x7b' =>
          if depth = 0 then failure
          Text.Scan.exactly '\x7b'
          skipSpaces
          if (← Text.Scan.peek) = some '\x7d' then
            Text.Scan.exactly '\x7d'
            pure (.inline (Table.empty .explicit))
          else
            let table := Table.empty .explicit
            pure (.inline (← scanPairs bound (depth - 1) table))
      | some 't' =>
          Text.Scan.word "true".toList
          pure (.scalar (.bool true))
      | some 'f' =>
          Text.Scan.word "false".toList
          pure (.scalar (.bool false))
      | _ =>
          match ← Text.Scan.optional scanMoment with
          | some written => pure (.moment written)
          | none => pure (.scalar (← scanNumber))

/-- Read the items of a list and its closing bracket.  A comma may follow the
last item. -/
def scanItems : Nat → Nat → Text.Scan (List Node)
  | 0, _ => failure
  | bound + 1, depth => do
      skipLines bound
      if (← Text.Scan.peek) = some ']' then
        Text.Scan.exactly ']'
        pure []
      else
        let item ← scanValue bound depth
        skipLines bound
        match ← Text.Scan.next with
        | ',' => pure (item :: (← scanItems bound depth))
        | ']' => pure [item]
        | _ => failure

/-- Read the pairs of a table in braces and the closing brace. -/
def scanPairs : Nat → Nat → Table → Text.Scan Table
  | 0, _, _ => failure
  | bound + 1, depth, table => do
      let (path, key) ← scanKey bound
      Text.Scan.exactly '='
      skipSpaces
      let value ← scanValue bound depth
      skipSpaces
      match table.insert path key value with
      | none => failure
      | some table =>
          match ← Text.Scan.next with
          | ',' => scanPairs bound depth table
          | '\x7d' => pure table
          | _ => failure

end

/-- Read a header with the rest of its line and open its table. -/
def scanHeader (bound : Nat) (builder : Builder) : Text.Scan Builder := do
  Text.Scan.exactly '['
  let repeated := (← Text.Scan.peek) = some '['
  if repeated then Text.Scan.exactly '['
  let (parent, key) ← scanKey bound
  Text.Scan.exactly ']'
  if repeated then Text.Scan.exactly ']'
  scanRestOfLine
  match
    if repeated then builder.openRepeated parent key
    else builder.openTable parent key with
  | some builder => pure builder
  | none => failure

/-- Read a key and its value with the rest of the line. -/
def scanPair (bound : Nat) (builder : Builder) : Text.Scan Builder := do
  let (path, key) ← scanKey bound
  Text.Scan.exactly '='
  skipSpaces
  let value ← scanValue bound (depthLimit - 1)
  scanRestOfLine
  match builder.add path key value with
  | some builder => pure builder
  | none => failure

/-- Read the lines of a file. -/
def scanFile : Nat → Builder → Text.Scan Builder
  | 0, _ => failure
  | bound + 1, builder => do
      skipSpaces
      match ← Text.Scan.peek with
      | none => pure builder
      | some '#' => scanComment; scanLineEnd; scanFile bound builder
      | some '\n' | some '\x0d' => scanNewline; scanFile bound builder
      | some '[' => scanFile bound (← scanHeader bound builder)
      | some _ => scanFile bound (← scanPair bound builder)

/-- Read a file.  A byte order mark at its start is skipped. -/
def read? (source : String) : Option Document := do
  let builder ← Text.Scan.readAll (do
    let _ ← Text.Scan.optional (Text.Scan.exactly '\uFEFF')
    scanFile (2 * source.length + 2) Builder.start) source
  builder.finish

end SqlWeave.Toml
