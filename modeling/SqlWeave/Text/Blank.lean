/-!
# Blank characters

The characters with the Unicode property `White_Space`.  Readers that allow
spaces between the parts of a date skip exactly these.
-/

namespace SqlWeave.Text

/-- The code points with the property `White_Space`, as closed ranges. -/
def blankRanges : List (Nat × Nat) :=
  [(0x9, 0xD), (0x20, 0x20), (0x85, 0x85), (0xA0, 0xA0), (0x1680, 0x1680),
    (0x2000, 0x200A), (0x2028, 0x2029), (0x202F, 0x202F), (0x205F, 0x205F),
    (0x3000, 0x3000)]

/-- Whether the character has the property `White_Space`. -/
def isBlank (char : Char) : Bool :=
  blankRanges.any fun range =>
    decide (range.1 ≤ char.toNat) && decide (char.toNat ≤ range.2)

end SqlWeave.Text
