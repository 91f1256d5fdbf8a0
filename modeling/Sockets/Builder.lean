import Sockets.Handle.Opening

/-!
# Builders

A builder collects what a handle is to be: its transport, its encryption, the group that a
receiver joins, and the context to open it with. Its last step opens the handle.

## Main definitions

* `Sockets.Builder` — what has been asked for.
* `Sockets.Builder.connect`, `Sockets.Builder.bind`, `Sockets.Builder.listen` — the last steps.
-/

set_option autoImplicit false

namespace Sockets

open Text

/-- A group that a receiver is to join, and the interface to join it through. -/
structure GroupChoice where
  group : String
  interface : Interface
  deriving DecidableEq, Repr, Inhabited

namespace GroupChoice

/-- The description of a choice of group. -/
def description (c : GroupChoice) : String :=
  Description.record "GroupJoin"
    [("group", Quoted.text c.group), ("interface", c.interface.description)]

end GroupChoice

/-- What has been asked for of a handle. -/
structure Builder where
  protocol : Protocol
  flags : Flags := {}
  /-- The context to open the handle with; without a choice it is the shared one. -/
  scope : Scope := .shared
  group : Option GroupChoice := none
  /-- Whether the last step is traced. -/
  traced : Bool := false
  deriving DecidableEq, Repr, Inhabited

namespace Builder

/-! ## Asking -/

/-- Ask for encryption, or for none. -/
def withTls (b : Builder) (mode : TlsMode) : Builder := { b with flags := { tls := mode } }

/-- Ask for tracing. -/
def withTracing (b : Builder) : Builder := { b with traced := true }

/-- Ask for the application's own context. -/
def withContext (b : Builder) : Builder := { b with scope := .own }

/-- Ask for a group, joined through an interface. -/
def withGroup (b : Builder) (group : String) (interface : Interface) : Builder :=
  { b with group := some ⟨group, interface⟩ }

/-- The description of what has been asked for. -/
def description (b : Builder) : String :=
  Description.record "SockBuilder" [
    ("protocol", b.protocol.tag),
    ("flags", b.flags.description),
    ("custom_context", Description.flag (b.scope == .own)),
    ("group", Description.option (b.group.map GroupChoice.description))]

/-! ## Last steps -/

/-- Trace a step, if tracing was asked for. -/
def trace (b : Builder) (what : String) : Net Unit :=
  if b.traced then Net.note (.trace ⟨"DEBUG", false, "unisock builder: " ++ what⟩) else pure ()

/-- A connected handle. -/
def connect (b : Builder) (host service : String) : Attempt Error Handle := do
  b.trace (b.protocol.text ++ " connect " ++ host ++ ":" ++ service)
  Net.connect b.scope host service b.protocol b.flags

/-- Join the group that was asked for. -/
def joinChosen (b : Builder) (c : GroupChoice) : Handle.Act Unit := do
  match Address.ofText c.group 0 with
  | .error e => throw e
  | .ok group =>
    Handle.joinGroup group c.interface
    Handle.Act.ofNet (b.trace ("joined " ++ c.group ++ " via " ++ c.interface.text))

/-- A bound handle, in the group that was asked for; without a host it is bound to every address
of the machine. -/
def bind (b : Builder) (host : Option String) (service : String) : Attempt Error Handle := do
  b.trace (b.protocol.text ++ " bind " ++ host.getD "*" ++ ":" ++ service)
  let h ← Net.bind b.scope host service b.protocol b.flags
  match b.group with
  | none => pure h
  | some c => do
    let (_, h) ← h.settle (b.joinChosen c)
    pure h

/-- A bound handle that waits for connections. -/
def listen (b : Builder) (host service : String) : Attempt Error Handle := do
  let h ← b.bind (some host) service
  let (_, h) ← h.settle (Handle.Act.ofAttempt (Net.listen b.scope h))
  pure h

end Builder

end Sockets
