import TagNesting.Unicode.Ranges

/-!
# `TagNesting.Unicode.WhiteSpace` — the property `White_Space`

The blanks that are trimmed from a line or an occurrence, and that end a tag name. The set holds the
line and paragraph separators and the fixed-width spaces; it does not hold the zero-width characters
U+200B and U+FEFF, nor the information separators U+001C to U+001F.
-/

namespace TagNesting.Unicode

/-- The code points with the property `White_Space`. -/
def whiteSpaceTable : RangeTable where
  ranges :=
    [(0x9, 0xD), (0x20, 0x20), (0x85, 0x85), (0xA0, 0xA0), (0x1680, 0x1680), (0x2000, 0x200A),
     (0x2028, 0x2029), (0x202F, 0x202F), (0x205F, 0x205F), (0x3000, 0x3000)]
  ascending := by decide +kernel

/-- Whether a character has the property `White_Space`. -/
def isWhiteSpace (c : Char) : Bool :=
  whiteSpaceTable.contains c.toNat

end TagNesting.Unicode
