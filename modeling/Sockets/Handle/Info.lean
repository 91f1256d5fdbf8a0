import Sockets.Handle.Basic

/-!
# What a handle tells about itself

What can be asked of a handle, one by one or everything at once. Asking leaves no trace but what the
two ends of the connection remember.

## Main definitions

* `Sockets.Handle.Question`, `Sockets.Handle.Answer` — what can be asked about an end.
* `Sockets.Handle.tell` — the answer, and the handle that remembers it.
* `Sockets.Handle.Info` — the answers.
* `Sockets.Handle.info` — the answers, and the handle that remembers them.
-/

set_option autoImplicit false

namespace Sockets

namespace Handle

/-! ## One question -/

/-- What can be asked about the ends of the connection. -/
inductive Question where
  | nearHost
  | nearPort
  | farHost
  | farPort
  deriving DecidableEq, Repr, Inhabited

/-- What is answered about an end of the connection. -/
inductive Answer where
  | host (text : Option String)
  | port (port : Option UInt16)
  deriving DecidableEq, Repr, Inhabited

/-- The answer to a question, and the handle that remembers it. -/
def tell (h : Handle) : Question → Answer × Handle
  | .nearHost => (.host h.near.host.1, { h with near := h.near.host.2 })
  | .nearPort => (.port h.near.port.1, { h with near := h.near.port.2 })
  | .farHost => (.host h.far.host.1, { h with far := h.far.host.2 })
  | .farPort => (.port h.far.port.1, { h with far := h.far.port.2 })

/-! ## Everything at once -/

/-- The answers to everything that can be asked of a handle. -/
structure Info where
  id : Nat
  protocol : Protocol
  flags : Flags
  number : Int
  isOpen : Bool
  family : Option Family
  near : Option Address
  nearHost : Option String
  nearPort : Option UInt16
  far : Option Address
  farHost : Option String
  farPort : Option UInt16
  membership : Option Membership

/-- The host text and the port of an end, and the end that remembers them. -/
def endInfo (e : Endpoint) : (Option String × Option UInt16) × Endpoint :=
  let (host, e) := e.host
  let (port, e) := e.port
  ((host, port), e)

/-- The answers to everything that can be asked of a handle, and the handle that remembers
them. -/
def info (h : Handle) : Info × Handle :=
  let ((nearHost, nearPort), near) := endInfo h.near
  let ((farHost, farPort), far) := endInfo h.far
  (⟨h.id, h.protocol, h.flags, h.number, h.descriptor.isSome, h.family?, h.near.address, nearHost,
    nearPort, h.far.address, farHost, farPort, h.membership⟩, { h with near := near, far := far })

end Handle

end Sockets
