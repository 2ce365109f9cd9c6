import TagNesting.Unicode.Ranges

/-!
# `TagNesting.Unicode.DefaultIgnorable` — the property `Default_Ignorable_Code_Point`

Characters that are passed over when a text is drawn, unless something gives them a form. Among them are the
Hangul fillers, which are letters by their category.
-/

namespace TagNesting.Unicode

/-- The code points with the property `Default_Ignorable_Code_Point`. -/
def defaultIgnorableTable : RangeTable where
  ranges :=
    [(0xAD, 0xAD), (0x34F, 0x34F), (0x61C, 0x61C), (0x115F, 0x1160), (0x17B4, 0x17B5),
     (0x180B, 0x180F), (0x200B, 0x200F), (0x202A, 0x202E), (0x2060, 0x206F), (0x3164, 0x3164),
     (0xFE00, 0xFE0F), (0xFEFF, 0xFEFF), (0xFFA0, 0xFFA0), (0xFFF0, 0xFFF8), (0x1BCA0, 0x1BCA3),
     (0x1D173, 0x1D17A), (0xE0000, 0xE0FFF)]
  ascending := by decide +kernel

/-- Whether a character has the property `Default_Ignorable_Code_Point`. -/
def isDefaultIgnorable (c : Char) : Bool :=
  defaultIgnorableTable.contains c.toNat

end TagNesting.Unicode
