import SqlWeave.Document.Json
import SqlWeave.Text.Scan

/-!
# Spaces, comments, strings and keys of TOML

The words of a TOML file: what may stand between its parts, the four forms of
strings, and keys with their dots.
-/

namespace SqlWeave.Toml

/-- A space or a tab. -/
def isSpace (char : Char) : Bool := char == ' ' || char == '\t'

/-- Whether the character may stand in a comment and in every string: a tab,
printable ASCII, or a character beyond ASCII. -/
def isPlain (char : Char) : Bool :=
  char == '\t' || (0x20 ≤ char.toNat && char.toNat ≤ 0x7E) || 0x80 ≤ char.toNat

/-- Skip spaces and tabs. -/
def skipSpaces : Text.Scan Unit := do
  let _ ← Text.Scan.takeWhile isSpace

/-- Read the end of a line: a line feed, or a carriage return with one. -/
def scanNewline : Text.Scan Unit := do
  match ← Text.Scan.next with
  | '\n' => pure ()
  | '\x0d' => Text.Scan.exactly '\n'
  | _ => failure

/-- Read a comment up to the end of its line. -/
def scanComment : Text.Scan Unit := do
  Text.Scan.exactly '#'
  let _ ← Text.Scan.takeWhile isPlain

/-- Read the end of a line or of the file. -/
def scanLineEnd : Text.Scan Unit := do
  if (← Text.Scan.peek).isSome then scanNewline

/-- Read what may follow on the line of a header or a value: spaces, a comment
and the end of the line. -/
def scanRestOfLine : Text.Scan Unit := do
  skipSpaces
  if (← Text.Scan.peek) = some '#' then scanComment
  scanLineEnd

/-- Skip spaces, comments and ends of lines; `bound` exceeds their number. -/
def skipLines : Nat → Text.Scan Unit
  | 0 => failure
  | bound + 1 => do
      skipSpaces
      match ← Text.Scan.peek with
      | some '#' => scanComment; scanNewline; skipLines bound
      | some '\n' | some '\x0d' => scanNewline; skipLines bound
      | _ => pure ()

/-! ## Strings -/

/-- Read the character with a code point of `count` hexadecimal digits. -/
def scanCodePoint (count : Nat) : Text.Scan Char := do
  let digits ← Text.Scan.takeUpTo count fun char =>
    (Text.hexValue? char).isSome
  if digits.length ≠ count then failure
  let code := (digits.filterMap Text.hexValue?).foldl
    (fun total digit => total * 16 + digit) 0
  match Document.Json.scalar? code with
  | some char => pure char
  | none => failure

/-- Read the character of an escape after its backslash. -/
def scanEscape : Text.Scan Char := do
  match ← Text.Scan.next with
  | 'b' => pure '\x08'
  | 't' => pure '\t'
  | 'n' => pure '\n'
  | 'f' => pure '\x0c'
  | 'r' => pure '\x0d'
  | '"' => pure '"'
  | '\\' => pure '\\'
  | 'u' => scanCodePoint 4
  | 'U' => scanCodePoint 8
  | _ => failure

/-- Read the characters of a string with escapes up to its closing quote. -/
def scanBasicCharacters : Nat → Text.Scan (List Char)
  | 0 => failure
  | bound + 1 => do
      match ← Text.Scan.next with
      | '"' => pure []
      | '\\' =>
          let char ← scanEscape
          pure (char :: (← scanBasicCharacters bound))
      | char =>
          if !isPlain char then failure
          pure (char :: (← scanBasicCharacters bound))

/-- Read a string with escapes on one line. -/
def scanBasicString (bound : Nat) : Text.Scan (List Char) := do
  Text.Scan.exactly '"'
  scanBasicCharacters bound

/-- Read a string without escapes on one line. -/
def scanLiteralString : Text.Scan (List Char) := do
  Text.Scan.exactly '\''
  let chars ← Text.Scan.takeWhile fun char => isPlain char && char != '\''
  Text.Scan.exactly '\''
  pure chars

/-- Skip spaces and ends of lines; `bound` exceeds their number. -/
def skipBlankLines : Nat → Text.Scan Unit
  | 0 => failure
  | bound + 1 => do
      skipSpaces
      match ← Text.Scan.optional scanNewline with
      | some () => skipBlankLines bound
      | none => pure ()

/-- Read a backslash at the end of a line with the blank text after it. -/
def scanContinuation (bound : Nat) : Text.Scan Unit := do
  Text.Scan.exactly '\\'
  skipSpaces
  scanNewline
  skipBlankLines bound

/-- Read the characters of a string over several lines up to its three closing
quotes.  Up to two more quotes before those belong to the string. -/
def scanLongCharacters (quote : Char) (escapes : Bool) :
    Nat → Text.Scan (List Char)
  | 0 => failure
  | bound + 1 => do
      let quotes ← Text.Scan.takeWhile (· == quote)
      if 6 ≤ quotes.length then failure
      if 3 ≤ quotes.length then return quotes.drop 3
      match ← Text.Scan.peek with
      | none => failure
      | some '\n' | some '\x0d' =>
          scanNewline
          let rest ← scanLongCharacters quote escapes bound
          pure (quotes ++ '\n' :: rest)
      | some char =>
          if escapes && char == '\\' then
            match ← Text.Scan.optional (scanContinuation bound) with
            | some () =>
                let rest ← scanLongCharacters quote escapes bound
                pure (quotes ++ rest)
            | none =>
                Text.Scan.exactly '\\'
                let char ← scanEscape
                let rest ← scanLongCharacters quote escapes bound
                pure (quotes ++ char :: rest)
          else
            if !isPlain char then failure
            Text.Scan.exactly char
            let rest ← scanLongCharacters quote escapes bound
            pure (quotes ++ char :: rest)

/-- Read a string over several lines.  A line end right after the opening
quotes does not belong to it. -/
def scanLongString (quote : Char) (escapes : Bool) (bound : Nat) :
    Text.Scan (List Char) := do
  Text.Scan.word [quote, quote, quote]
  let _ ← Text.Scan.optional scanNewline
  scanLongCharacters quote escapes bound

/-- Read a string in any of its forms. -/
def scanString (bound : Nat) : Text.Scan String := do
  let input ← get
  let chars ←
    if input.take 3 = ['"', '"', '"'] then scanLongString '"' true bound
    else if input.take 3 = ['\'', '\'', '\''] then
      scanLongString '\'' false bound
    else if input.head? = some '"' then scanBasicString bound
    else scanLiteralString
  pure (String.ofList chars)

/-! ## Keys -/

/-- Whether the character may stand in a key without quotes. -/
def isBareKey (char : Char) : Bool :=
  char.isAlphanum || char == '-' || char == '_'

/-- Read one segment of a key. -/
def scanSegment (bound : Nat) : Text.Scan String := do
  let chars ←
    match ← Text.Scan.peek with
    | some '"' => scanBasicString bound
    | some '\'' => scanLiteralString
    | _ =>
        let chars ← Text.Scan.takeWhile isBareKey
        if chars.isEmpty then failure
        pure chars
  pure (String.ofList chars)

/-- Read the segments of a key, with dots between them and spaces around. -/
def scanSegments : Nat → Text.Scan (List String)
  | 0 => failure
  | bound + 1 => do
      skipSpaces
      let segment ← scanSegment bound
      skipSpaces
      if (← Text.Scan.peek) = some '.' then
        Text.Scan.exactly '.'
        pure (segment :: (← scanSegments bound))
      else pure [segment]

/-- How deep values may be nested and how many segments a key may have, plus
one. -/
def depthLimit : Nat := 80

/-- Read a key: the path of its leading segments, and its last one. -/
def scanKey (bound : Nat) : Text.Scan (List String × String) := do
  let segments ← scanSegments bound
  if depthLimit ≤ segments.length then failure
  match segments.getLast? with
  | some last => pure (segments.dropLast, last)
  | none => failure

end SqlWeave.Toml
