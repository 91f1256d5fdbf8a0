import Sockets.Errno

/-!
# Faults of input and output

What went wrong below the library: the kernel's error number, or a kind of failure with a text
of its own or the kind's usual one.

## Main definitions

* `Sockets.FaultKind` — the kinds of failure.
* `Sockets.Fault` — a failure, with its `kind`, its `message` and its error number.
* `Sockets.Fault.isTimeout` — whether waiting is what failed.
-/

set_option autoImplicit false

namespace Sockets

/-- The kinds of failure of input and output. -/
inductive FaultKind where
  | wouldBlock
  | timedOut
  | notConnected
  | unexpectedEof
  | invalidInput
  | invalidData
  | addrNotAvailable
  | unsupported
  | interrupted
  | other
  deriving DecidableEq, Repr, Inhabited

namespace FaultKind

/-- The usual text of a kind of failure. -/
def message : FaultKind → String
  | wouldBlock => "operation would block"
  | timedOut => "timed out"
  | notConnected => "not connected"
  | unexpectedEof => "unexpected end of file"
  | invalidInput => "invalid input parameter"
  | invalidData => "invalid data"
  | addrNotAvailable => "address not available"
  | unsupported => "unsupported"
  | interrupted => "operation interrupted"
  | other => "other error"

/-- The kind of failure that an error number stands for. -/
def ofErrno (n : Int) : FaultKind :=
  if n = 11 then wouldBlock
  else if n = 110 then timedOut
  else if n = 107 then notConnected
  else if n = 22 then invalidInput
  else if n = 99 then addrNotAvailable
  else if n = 95 then unsupported
  else if n = 4 then interrupted
  else other

end FaultKind

/-- A failure of input or output. -/
inductive Fault where
  /-- The kernel's error number. -/
  | os (errno : Int)
  /-- A kind of failure, without more. -/
  | plain (kind : FaultKind)
  /-- A kind of failure with a text of its own. -/
  | custom (kind : FaultKind) (text : String)
  deriving DecidableEq, Repr, Inhabited

namespace Fault

/-- The kind of a failure. -/
def kind : Fault → FaultKind
  | os n => FaultKind.ofErrno n
  | plain k => k
  | custom k _ => k

/-- The text of a failure. -/
def message : Fault → String
  | os n => Errno.message n ++ " (os error " ++ toString n ++ ")"
  | plain k => k.message
  | custom _ text => text

/-- The kernel's error number, if the failure carries one. -/
def errno? : Fault → Option Int
  | os n => some n
  | plain _ | custom .. => none

/-- Whether a failure says that waiting would be needed or was in vain. -/
def isTimeout (f : Fault) : Bool := f.kind = .wouldBlock || f.kind = .timedOut

end Fault

end Sockets
