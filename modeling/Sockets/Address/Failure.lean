import Sockets.Address.Text
import Sockets.Error

/-!
# Texts that are no address

A text that is neither a literal nor a path is of no family that a handle works with; a path that
is too long is refused as the kernel would refuse it.

## Main definitions

* `Sockets.Fault.pathTooLong` — the fault of a path that is too long.
* `Sockets.Address.ofText` — the address of a host text and a port, or the error.
-/

set_option autoImplicit false

namespace Sockets

/-- The fault of a path that is too long for the address of a local socket. -/
def Fault.pathTooLong : Fault := .custom .invalidInput "path must be shorter than SUN_LEN"

namespace Address

/-- The error for a text that gives no address. -/
def ParseFailure.error : ParseFailure → Error
  | unknownForm => .family
  | pathTooLong => .system "unix address" .pathTooLong

/-- The address of a host text and a port, or the error. -/
def ofText (host : String) (port : UInt16) : Except Error Address :=
  (parse host port).mapError ParseFailure.error

end Address

end Sockets
