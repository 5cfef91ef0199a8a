import Deliveries.Text.Ranges

/-!
# Blank characters

Between the numbers of a datetime any run of white space may stand.  White
space is the `White_Space` property of Unicode: the ASCII blanks, the next-line
control, the no-break space and the spaces and separators beyond them.
-/

namespace Deliveries
namespace Text

/-- The inclusive ranges of the code points with the `White_Space` property. -/
def blankRanges : List (Nat × Nat) :=
  [(0x9, 0xD), (0x20, 0x20), (0x85, 0x85), (0xA0, 0xA0), (0x1680, 0x1680),
    (0x2000, 0x200A), (0x2028, 0x2029), (0x202F, 0x202F), (0x205F, 0x205F),
    (0x3000, 0x3000)]

/-- A character is blank when it has the `White_Space` property. -/
def isBlank (character : Char) : Bool :=
  inRanges blankRanges character.toNat

/-- Drops the blanks at the start of a text. -/
def skipBlanks (text : List Char) : List Char :=
  text.dropWhile isBlank

theorem skipBlanks_cons_of_not_blank
    {character : Char} (solid : isBlank character = false)
    (rest : List Char) :
    skipBlanks (character :: rest) = character :: rest := by
  simp [skipBlanks, solid]

end Text
end Deliveries
