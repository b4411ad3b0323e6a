namespace ByteField.Text

/-!
# Ignorable characters

A display that does not support an ignorable character leaves it out instead of
drawing a mark for a missing glyph.  Fillers that stand for an empty letter,
joiners and variation selectors are of this kind.  The code points with this
property are listed as inclusive ranges in ascending order.
-/

namespace Ignorable

/-- All ignorable code points. -/
def ranges : List (Nat × Nat) :=
  [(0x00AD, 0x00AD), (0x034F, 0x034F), (0x061C, 0x061C), (0x115F, 0x1160),
    (0x17B4, 0x17B5), (0x180B, 0x180F), (0x200B, 0x200F), (0x202A, 0x202E),
    (0x2060, 0x206F), (0x3164, 0x3164), (0xFE00, 0xFE0F), (0xFEFF, 0xFEFF),
    (0xFFA0, 0xFFA0), (0xFFF0, 0xFFF8), (0x1BCA0, 0x1BCA3), (0x1D173, 0x1D17A),
    (0xE0000, 0xE0FFF)]

end Ignorable

/-- Whether a display may leave a character out without a trace. -/
def isIgnorable
    (character : Char) :
    Bool :=
  Ignorable.ranges.any fun (first, last) =>
    first ≤ character.toNat && character.toNat ≤ last

end ByteField.Text
