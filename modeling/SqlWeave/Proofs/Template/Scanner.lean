import Mathlib.Data.Nat.Digits.Defs
import SqlWeave.Compile.Template

/-!
# Scanning statements

A scan of a statement's text from left to right, as a client of a database does
it: an opening quote begins a name, which ends at the first closing quote that
is not followed by another one; outside names the placeholders of the dialect
are told from all other characters.  The scan knows nothing of the fragments
that the text was written from.
-/

namespace SqlWeave

/-- What a scan finds. -/
inductive Lexeme where
  /-- A quoted name, with doubled quotes undone. -/
  | name (text : String)
  /-- A placeholder as it stands in the text. -/
  | placeholder (text : String)
  /-- Any other character. -/
  | char (char : Char)
  deriving DecidableEq, Repr

namespace PlaceholderStyle

/-- The placeholder at the front of a text, and what follows it. -/
def split? : PlaceholderStyle → List Char → Option (List Char × List Char)
  | .questionMark, '?' :: rest => some (['?'], rest)
  | .numbered, '$' :: rest =>
      if (rest.takeWhile Char.isDigit).isEmpty then none
      else
        some ('$' :: rest.takeWhile Char.isDigit, rest.dropWhile Char.isDigit)
  | .format, '%' :: 's' :: rest => some (['%', 's'], rest)
  | _, _ => none

/-- No placeholder stands at the front of the text, however it goes on. -/
def excludes : PlaceholderStyle → List Char → Bool
  | .questionMark, char :: _ => char != '?'
  | .numbered, char :: _ => char != '$'
  | .format, [char] => char != '%'
  | .format, char :: next :: _ => char != '%' || next != 's'
  | _, [] => false

theorem split?_eq_none_of_excludes {style : PlaceholderStyle}
    {front : List Char} (excluded : style.excludes front = true)
    (rest : List Char) : style.split? (front ++ rest) = none := by
  unfold excludes at excluded
  unfold split?
  split at excluded
  · split <;> simp_all
  · split <;> simp_all
  · split <;> simp_all
  · split <;> simp_all
  · cases excluded

/-- A numbered placeholder ends where its digits end. -/
theorem split?_dollar {digits rest : List Char}
    (each : ∀ char ∈ digits, char.isDigit = true) (some : digits ≠ [])
    (ends : ∀ char ∈ rest.head?, char.isDigit = false) :
    numbered.split? ('$' :: (digits ++ rest)) = .some ('$' :: digits, rest) := by
  have stops : rest.takeWhile Char.isDigit = [] ∧
      rest.dropWhile Char.isDigit = rest := by
    cases rest with
    | nil => simp
    | cons char tail => simp [ends char rfl]
  simp [split?, List.takeWhile_append_of_pos each,
    List.dropWhile_append_of_pos each, stops, some]

theorem length_lt_of_split? {style : PlaceholderStyle}
    {text placeholder rest : List Char}
    (found : style.split? text = some (placeholder, rest)) :
    rest.length < text.length := by
  unfold split? at found
  split at found
  · cases found
    simp
  · split at found
    · cases found
    · cases found
      exact Nat.lt_succ_of_le (List.dropWhile_sublist _).length_le
  · cases found
    simp only [List.length_cons]
    omega
  · cases found

end PlaceholderStyle

/-- Reading a quoted name moves on in the text. -/
theorem Text.Quoted.length_lt_of_scan {close : Char}
    {text name rest : List Char} (found : scan close text = some (name, rest)) :
    rest.length < text.length := by
  induction text using scan.induct close generalizing name with
  | case1 => simp [scan] at found
  | case2 =>
      simp only [scan, if_pos] at found
      cases found
      simp
  | case3 char differs => simp [scan, differs] at found
  | case4 tail ih =>
      simp only [scan, if_pos, Option.map_eq_some_iff] at found
      obtain ⟨⟨inner, after⟩, read, equal⟩ := found
      cases equal
      have shorter := ih read
      exact Nat.lt_succ_of_lt (Nat.lt_succ_of_lt shorter)
  | case5 next tail differs =>
      simp only [scan, if_pos, if_neg differs] at found
      cases found
      simp
  | case6 char next tail differs ih =>
      simp only [scan, if_neg differs, Option.map_eq_some_iff] at found
      obtain ⟨⟨inner, after⟩, read, equal⟩ := found
      cases equal
      have shorter := ih read
      exact Nat.lt_succ_of_lt shorter

namespace Dialect

/-- The first lexeme of a text, and what follows it. -/
def lexeme? (dialect : Dialect) : List Char → Option (Lexeme × List Char)
  | [] => none
  | char :: rest =>
      if char = dialect.openQuote then
        (Text.Quoted.scan dialect.closeQuote rest).map fun found =>
          (.name (String.ofList found.1), found.2)
      else
        match dialect.placeholders.split? (char :: rest) with
        | some found => some (.placeholder (String.ofList found.1), found.2)
        | none => some (.char char, rest)

variable {dialect : Dialect} {text rest : List Char} {lexeme : Lexeme}

theorem length_lt_of_lexeme?
    (found : dialect.lexeme? text = some (lexeme, rest)) :
    rest.length < text.length := by
  cases text with
  | nil => cases found
  | cons char tail =>
      rw [lexeme?] at found
      split at found
      · obtain ⟨⟨name, after⟩, read, equal⟩ :=
          Option.map_eq_some_iff.mp found
        cases equal
        exact Nat.lt_succ_of_lt (Text.Quoted.length_lt_of_scan read)
      · split at found
        · next split =>
            cases found
            exact PlaceholderStyle.length_lt_of_split? split
        · cases found
          exact Nat.lt_succ_self _

/-- The lexemes of a text, unless a name in it does not end. -/
def lex (dialect : Dialect) (text : List Char) : Option (List Lexeme) :=
  if text.isEmpty then some []
  else
    match _found : dialect.lexeme? text with
    | none => none
    | some (lexeme, rest) => (lex dialect rest).map (lexeme :: ·)
termination_by text.length
decreasing_by exact length_lt_of_lexeme? _found

/-! ## Steps of a scan -/

@[simp] theorem lex_nil (dialect : Dialect) : dialect.lex [] = some [] := by
  rw [lex]
  rfl

theorem lex_of_lexeme? (found : dialect.lexeme? text = some (lexeme, rest)) :
    dialect.lex text = (dialect.lex rest).map (lexeme :: ·) := by
  have longer := length_lt_of_lexeme? found
  cases text with
  | nil => cases longer
  | cons char tail =>
      rw [lex, List.isEmpty_cons, if_neg Bool.false_ne_true]
      split
      · next missing =>
          rw [missing] at found
          cases found
      · next lexeme' rest' held =>
          rw [held] at found
          cases found
          rfl

/-- The text is scanned as single characters, however it goes on. -/
def isQuiet (dialect : Dialect) : List Char → Bool
  | [] => true
  | char :: rest =>
      char != dialect.openQuote &&
        dialect.placeholders.excludes (char :: rest) && isQuiet dialect rest

/-- The text ends a name or a placeholder that stands in front of it. -/
def isBoundary (dialect : Dialect) : List Char → Bool
  | [] => true
  | char :: _ => char != dialect.closeQuote && !char.isDigit

theorem lex_append_of_isQuiet {front : List Char}
    (quiet : dialect.isQuiet front = true) (rest : List Char) :
    dialect.lex (front ++ rest) =
      (dialect.lex rest).map (front.map Lexeme.char ++ ·) := by
  induction front with
  | nil => simp
  | cons char tail ih =>
      rw [isQuiet, Bool.and_eq_true, Bool.and_eq_true, bne_iff_ne] at quiet
      obtain ⟨⟨notQuote, excluded⟩, others⟩ := quiet
      have none := PlaceholderStyle.split?_eq_none_of_excludes excluded rest
      have first : dialect.lexeme? (char :: tail ++ rest) =
          some (.char char, tail ++ rest) := by
        rw [List.cons_append] at none ⊢
        rw [lexeme?, if_neg notQuote, none]
      rw [lex_of_lexeme? first, ih others, Option.map_map]
      rfl

/-- A quoted name is found whatever characters it holds. -/
theorem lex_quoteChars_append (name : String)
    (boundary : dialect.isBoundary rest = true) :
    dialect.lex (dialect.quoteChars name ++ rest) =
      (dialect.lex rest).map (Lexeme.name name :: ·) := by
  have separated : Text.Quoted.Separated dialect.closeQuote rest := by
    cases rest with
    | nil => simp [Text.Quoted.Separated]
    | cons char tail =>
        rw [isBoundary, Bool.and_eq_true, bne_iff_ne] at boundary
        simpa [Text.Quoted.Separated] using boundary.1
  apply lex_of_lexeme?
  rw [quoteChars, Text.Quoted.enclose, List.cons_append, lexeme?, if_pos rfl,
    List.append_assoc, List.singleton_append,
    Text.Quoted.scan_double _ _ _ separated]
  simp

/-- A placeholder is found as it was written. -/
theorem lex_placeholder_append (index : Nat)
    (begins : ∀ char ∈ ['?', '$', '%'], char ≠ dialect.openQuote)
    (boundary : dialect.isBoundary rest = true) :
    dialect.lex ((dialect.placeholder index).toList ++ rest) =
      (dialect.lex rest).map
        (Lexeme.placeholder (dialect.placeholder index) :: ·) := by
  simp only [List.forall_mem_cons] at begins
  obtain ⟨question, dollar, percent, _⟩ := begins
  apply lex_of_lexeme?
  unfold placeholder
  cases style : dialect.placeholders with
  | questionMark => simp [lexeme?, style, PlaceholderStyle.split?, question]
  | format => simp [lexeme?, style, PlaceholderStyle.split?, percent]
  | numbered =>
      have ends : ∀ char ∈ rest.head?, char.isDigit = false := by
        intro char first
        cases rest with
        | nil => cases first
        | cons head tail =>
            cases first
            rw [isBoundary, Bool.and_eq_true, Bool.not_eq_true'] at boundary
            exact boundary.2
      have digits : ∀ char ∈ Nat.toDigits 10 index, char.isDigit = true :=
        fun char => Nat.isDigit_of_mem_toDigits (by decide) (by decide)
      have split :=
        PlaceholderStyle.split?_dollar digits Nat.toDigits_ne_nil ends
      simp only [Nat.toString_eq_ofList_toDigits, String.toList_append,
        String.toList_ofList]
      show dialect.lexeme? ('$' :: (Nat.toDigits 10 index ++ rest)) = _
      rw [lexeme?, if_neg dollar, style, split]
      simp [String.ofList_cons]

end Dialect

end SqlWeave
