/-!
# Classes of characters

A class of characters is given by the ranges of code points that it consists of.

## Main definitions

* `Sockets.Text.inRanges` — whether a character lies in one of the ranges of a table.
-/

set_option autoImplicit false

namespace Sockets

namespace Text

/-- Whether the code point of a character lies in one of the ranges of a table, ends included. -/
def inRanges (table : List (Nat × Nat)) (c : Char) : Bool :=
  table.any fun (low, high) => low ≤ c.toNat && c.toNat ≤ high

end Text

end Sockets
