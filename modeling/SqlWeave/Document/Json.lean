import SqlWeave.Document.Number

/-!
# Reading JSON

Documents are read from JSON text.  Of two entries under one key the later one
wins as a whole, lone surrogates are refused, and lists and objects may be
nested only so deep.
-/

namespace SqlWeave.Document.Json

/-- Whether the character may stand between the parts of a text. -/
def isSpace (char : Char) : Bool :=
  char == ' ' || char == '\n' || char == '\t' || char == '\x0d'

/-- Skip spaces. -/
def skipSpaces : Text.Scan Unit := do
  let _ ← Text.Scan.takeWhile isSpace

/-- Read four hexadecimal digits. -/
def scanUnit : Text.Scan Nat := do
  let mut unit := 0
  for _ in [0, 1, 2, 3] do
    match Text.hexValue? (← Text.Scan.next) with
    | some value => unit := unit * 16 + value
    | none => failure
  pure unit

/-- The character of a code point that is no surrogate. -/
def scalar? (code : Nat) : Option Char :=
  if valid : code.isValidChar then some (Char.ofNatAux code valid) else none

/-- Read the character of an escape after `\u`.  A high surrogate must be
followed by the escape of a low one. -/
def scanUnicodeEscape : Text.Scan Char := do
  let unit ← scanUnit
  let code ←
    if 0xD800 ≤ unit ∧ unit ≤ 0xDBFF then do
      Text.Scan.exactly '\\'
      Text.Scan.exactly 'u'
      let low ← scanUnit
      if low < 0xDC00 ∨ 0xDFFF < low then failure
      pure (0x10000 + (unit - 0xD800) * 0x400 + (low - 0xDC00))
    else pure unit
  match scalar? code with
  | some char => pure char
  | none => failure

/-- Read the character of an escape after its backslash. -/
def scanEscape : Text.Scan Char := do
  match ← Text.Scan.next with
  | '"' => pure '"'
  | '\\' => pure '\\'
  | '/' => pure '/'
  | 'b' => pure '\x08'
  | 'f' => pure '\x0c'
  | 'n' => pure '\n'
  | 'r' => pure '\x0d'
  | 't' => pure '\t'
  | 'u' => scanUnicodeEscape
  | _ => failure

/-- Read the characters of a string up to its closing quote.  Each step takes a
character, so a bound on the length of the text bounds the steps. -/
def scanCharacters : Nat → Text.Scan (List Char)
  | 0 => failure
  | bound + 1 => do
      match ← Text.Scan.next with
      | '"' => pure []
      | '\\' =>
          let char ← scanEscape
          pure (char :: (← scanCharacters bound))
      | char =>
          if char.toNat < 0x20 then failure
          pure (char :: (← scanCharacters bound))

/-- Read a string. -/
def scanString (bound : Nat) : Text.Scan String := do
  Text.Scan.exactly '"'
  pure (String.ofList (← scanCharacters bound))

/-- How deep lists and objects may be nested. -/
def greatestDepth : Nat := 127

mutual

/-- Read a document.  `depth` levels of nesting are left; `bound` exceeds the
number of characters left. -/
def scanDocument : Nat → Nat → Text.Scan Document
  | 0, _ => failure
  | bound + 1, depth => do
      skipSpaces
      match ← Text.Scan.peek with
      | some 'n' => Text.Scan.word "null".toList; pure null
      | some 't' => Text.Scan.word "true".toList; pure (bool true)
      | some 'f' => Text.Scan.word "false".toList; pure (bool false)
      | some '"' => pure (text (← scanString bound))
      | some '[' =>
          if depth = 0 then failure
          Text.Scan.exactly '['
          skipSpaces
          match ← Text.Scan.peek with
          | some ']' => Text.Scan.exactly ']'; pure (list [])
          | _ => pure (list (← scanItems bound (depth - 1)))
      | some '\x7b' =>
          if depth = 0 then failure
          Text.Scan.exactly '\x7b'
          skipSpaces
          match ← Text.Scan.peek with
          | some '\x7d' => Text.Scan.exactly '\x7d'; pure (object [])
          | _ => pure (ofPairs (← scanPairs bound (depth - 1)))
      | _ => scanNumber

/-- Read the items of a list and its closing bracket. -/
def scanItems : Nat → Nat → Text.Scan (List Document)
  | 0, _ => failure
  | bound + 1, depth => do
      let item ← scanDocument bound depth
      skipSpaces
      match ← Text.Scan.next with
      | ',' => pure (item :: (← scanItems bound depth))
      | ']' => pure [item]
      | _ => failure

/-- Read the pairs of an object and its closing brace. -/
def scanPairs : Nat → Nat → Text.Scan (List (String × Document))
  | 0, _ => failure
  | bound + 1, depth => do
      skipSpaces
      let key ← scanString bound
      skipSpaces
      Text.Scan.exactly ':'
      let value ← scanDocument bound depth
      skipSpaces
      match ← Text.Scan.next with
      | ',' => pure ((key, value) :: (← scanPairs bound depth))
      | '\x7d' => pure [(key, value)]
      | _ => failure

end

/-- Read a text that holds one document. -/
def read? (source : String) : Option Document :=
  Text.Scan.readAll (do
    let document ← scanDocument (2 * source.length + 2) greatestDepth
    skipSpaces
    pure document) source

end SqlWeave.Document.Json
