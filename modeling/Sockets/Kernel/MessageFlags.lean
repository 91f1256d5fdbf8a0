import Sockets.Text.Description

/-!
# Message flags

What a caller asks of the kernel for a single message: a set of bits, which a transfer hands on
as it stands.

## Main definitions

* `Sockets.MessageFlags` — the bits, with the sets `empty`, `peek`, `truncate`, `waitAll` and
  `dontWait`.
* `Sockets.MessageFlags.union` — all the bits of two sets.
* `Sockets.MessageFlags.peeks` — whether a receiver leaves what it reads in the queue.
* `Sockets.MessageFlags.truncates` — whether a receiver asks for the whole length of a message.
-/

set_option autoImplicit false

namespace Sockets

open Text

/-- What is asked of the kernel for a single message. -/
structure MessageFlags where
  bits : Int32
  deriving DecidableEq, Repr, Inhabited

namespace MessageFlags

/-- Nothing is asked for. -/
def empty : MessageFlags := ⟨0⟩

/-- What is read stays in the queue. -/
def peek : MessageFlags := ⟨2⟩

/-- A read is told the whole length of a message, even where its buffer is shorter. -/
def truncate : MessageFlags := ⟨32⟩

/-- A read waits until its buffer is full. -/
def waitAll : MessageFlags := ⟨256⟩

/-- The call does not wait. -/
def dontWait : MessageFlags := ⟨64⟩

/-- All that either set asks for. -/
def union (f g : MessageFlags) : MessageFlags := ⟨f.bits ||| g.bits⟩

/-- Whether a receiver leaves what it reads in the queue. -/
def peeks (f : MessageFlags) : Bool := f.bits &&& peek.bits ≠ 0

/-- Whether a receiver asks for the whole length of a message. -/
def truncates (f : MessageFlags) : Bool := f.bits &&& truncate.bits ≠ 0

/-- The number of a set. -/
def text (f : MessageFlags) : String := toString f.bits.toInt

/-- A set, for a reader who inspects it. -/
def description (f : MessageFlags) : String := Description.carrying "MsgFlags" f.text

end MessageFlags

end Sockets
