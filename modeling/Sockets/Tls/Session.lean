import Sockets.Error
import Sockets.Kernel.Call

/-!
# Sessions

A session is the encrypted side of one descriptor. What its calls answer comes from elsewhere;
here it is a list of answers for each kind of call, which the calls use up in order. An answer is a
function of what the call is given, and the handle takes it as it is: the count of a read need not
be that of its octets, nor the count of a write within what was offered.

## Main definitions

* `Sockets.Tls.Session` — the answers that a session has left.
* `Sockets.Tls.Session.takeRead`, `Sockets.Tls.Session.takeWrite`,
  `Sockets.Tls.Session.takeShutdown` — what a call answers, and the session after it.
-/

set_option autoImplicit false

namespace Sockets

namespace Tls

/-- The answers that a session has left: for reads into buffers of some length, for writes of some
octets, and for shutting down. -/
structure Session where
  reads : List (Nat → Except TlsError Received) := []
  writes : List (Bytes → Except TlsError Nat) := []
  shutdowns : List (Except TlsError Unit) := []
  deriving Inhabited

namespace Session

/-- What a read into a buffer of `length` octets answers; there is no data behind the last answer.
-/
def takeRead (s : Session) (length : Nat) : Except TlsError Received × Session :=
  match s.reads with
  | [] => (.ok (.ofData []), s)
  | answer :: rest => (answer length, { s with reads := rest })

/-- What a write of octets answers; behind the last answer every octet is taken. -/
def takeWrite (s : Session) (data : Bytes) : Except TlsError Nat × Session :=
  match s.writes with
  | [] => (.ok data.length, s)
  | answer :: rest => (answer data, { s with writes := rest })

/-- What shutting down answers; behind the last answer it succeeds. -/
def takeShutdown (s : Session) : Except TlsError Unit × Session :=
  match s.shutdowns with
  | [] => (.ok (), s)
  | answer :: rest => (answer, { s with shutdowns := rest })

end Session

end Tls

end Sockets
