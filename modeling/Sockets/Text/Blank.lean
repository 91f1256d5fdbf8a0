import Sockets.Text.Class

/-!
# Blank characters

The characters with the Unicode property `White_Space`, which separate the words of a line.

## Main definitions

* `Sockets.Text.isBlank` — whether a character is blank.
-/

set_option autoImplicit false

namespace Sockets

namespace Text

/-- The ranges of the property `White_Space`. -/
def blankRanges : List (Nat × Nat) := [
  (0x9, 0xD), (0x20, 0x20), (0x85, 0x85), (0xA0, 0xA0), (0x1680, 0x1680), (0x2000, 0x200A),
  (0x2028, 0x2029), (0x202F, 0x202F), (0x205F, 0x205F), (0x3000, 0x3000)]

/-- Whether a character is blank. -/
def isBlank (c : Char) : Bool := inRanges blankRanges c

end Text

end Sockets
