import Sockets.Handle.Endpoint
import Sockets.Multicast.Membership
import Sockets.Tls.Session

/-!
# Handles

A handle owns a descriptor, the session on it if it is encrypted, and the membership in a group
if it has joined one. It knows the addresses of both ends of its connection.

## Main definitions

* `Sockets.TlsMode`, `Sockets.Flags` — whether a handle is encrypted, and what else it can do.
* `Sockets.Handle` — a handle.
* `Sockets.Handle.Act` — operations on a handle and the world that may fail. What such an
  operation did to the handle stays done when it fails.
* `Sockets.Handle.compare` — the order of handles, by their descriptors.
-/

set_option autoImplicit false

namespace Sockets

open Text

/-! ## Flags -/

/-- Whether a handle is encrypted, and whether the certificate of its peer is verified, as it only
is where there is encryption. -/
structure TlsMode where
  enabled : Bool
  isStrict : Bool
  enabled_of_isStrict : isStrict = true → enabled = true
  deriving DecidableEq, Repr

namespace TlsMode

/-- Nothing is encrypted. -/
def off : TlsMode := ⟨false, false, by decide⟩

/-- Encrypted, with any peer. -/
def lax : TlsMode := ⟨true, false, by decide⟩

/-- Encrypted, with a peer that was verified. -/
def strict : TlsMode := ⟨true, true, by decide⟩

instance : Inhabited TlsMode := ⟨off⟩

end TlsMode

/-- What a handle can do: its encryption, and whether it has joined a group. -/
structure Flags where
  tls : TlsMode := .off
  joined : Bool := false
  deriving DecidableEq, Repr, Inhabited

namespace Flags

/-- The part of flags that can be asked for. -/
def requested (f : Flags) : Flags := { f with joined := false }

/-- The flags of a handle that has joined a group. -/
def withGroup (f : Flags) : Flags := { f with joined := true }

/-- The description of flags. -/
def description (f : Flags) : String :=
  Description.record "SockFlags" [
    ("tls_enabled", Description.flag f.tls.enabled),
    ("tls_strict", Description.flag f.tls.isStrict),
    ("multicast_joined", Description.flag f.joined)]

end Flags

/-! ## Handles -/

/-- A socket of any transport. -/
structure Handle where
  id : Nat
  /-- The descriptor, until the handle is torn down. -/
  descriptor : Option Descriptor
  protocol : Protocol
  flags : Flags
  near : Endpoint := {}
  far : Endpoint := {}
  session : Option Tls.Session := none
  membership : Option Membership := none
  deriving Inhabited

namespace Handle

/-- The number of the descriptor; minus one when it is gone. -/
def number (h : Handle) : Int :=
  match h.descriptor with
  | some fd => fd
  | none => -1

/-- The order of handles, by their descriptors. -/
def compare (a b : Handle) : Ordering := Ord.compare a.number b.number

/-- The family of a handle, from its near address. -/
def family? (h : Handle) : Option Family := h.near.address.bind Address.family?

/-- How a handle is called in log records. -/
def name (h : Handle) : String := "sock#" ++ toString h.id

/-! ## Operations -/

/-- An operation on a handle and the world that may fail. -/
abbrev Act (α : Type) := ExceptT Error (StateT Handle Net) α

/-- An operation on the world, as one on a handle. -/
def Act.ofNet {α : Type} (x : Net α) : Act α := ExceptT.lift (StateT.lift x)

/-- An operation on the world that may fail, as one on a handle. -/
def Act.ofAttempt {α : Type} (x : Attempt Error α) : Act α := ExceptT.mk (StateT.lift x.run)

/-- An operation on a handle: how it ends, and the handle after it. -/
def Act.on {α : Type} (x : Act α) (h : Handle) : Net (Except Error α × Handle) := x.run.run h

/-- Write a log record about a handle. -/
def record (level : Level) (message : String) : Act Unit := do
  let h ← get
  Act.ofNet (Net.record level (h.name ++ ": " ++ message))

/-- The descriptor of a handle. -/
def owned : Act Descriptor := do
  match (← get).descriptor with
  | some fd => pure fd
  | none => throw (.system "descriptor" (.plain .notConnected))

/-- A new handle that owns a descriptor. -/
def create (fd : Descriptor) (p : Protocol) (flags : Flags) (session : Option Tls.Session) :
    Net Handle := fun w =>
  (⟨w.nextId, some fd, p, flags, {}, {}, session, none⟩, { w with nextId := w.nextId + 1 })

end Handle

end Sockets
