import Sockets.Handle.Teardown
import Sockets.Opening.Bind
import Sockets.Opening.Connect
import Sockets.Tls.Negotiation

/-!
# Opening handles

A handle is opened by connecting to a host and a service, by binding, by accepting a connection,
or as one of a pair. If a step fails once there is a descriptor, the descriptor is closed; if it
fails once there is a handle, the handle is dropped.

## Main definitions

* `Sockets.Net.connect`, `Sockets.Net.bind`, `Sockets.Net.accept`, `Sockets.Net.socketpair` — new
  handles.
* `Sockets.Net.listen` — let a handle wait for connections.
* `Sockets.Handle.reconnect` — connect a handle to another peer.
-/

set_option autoImplicit false

namespace Sockets

namespace Net

/-! ## Sessions of new handles -/

/-- A session for a descriptor, if the flags ask for one. If there is none to be had that is
recorded and the descriptor closed. -/
def sessionFor (fd : Descriptor) (flags : Flags) (what : String)
    (negotiation : Attempt TlsError Tls.Session) : Attempt Error (Option Tls.Session) := do
  if flags.tls.enabled then
    match ← negotiation.run with
    | .ok session => pure (some session)
    | .error e =>
      record .error (what ++ ": " ++ e.message)
      discard fd
      throw (.tls e)
  else pure none

/-! ## Connecting -/

/-- A handle connected to a host and a service. A peer that is a group is joined. -/
def connect (scope : Scope) (host service : String) (p : Protocol) (flags : Flags) :
    Attempt Error Handle := do
  let flags := flags.requested
  let fd ← Opening.connect scope host service p
  let session ← sessionFor fd flags ("TLS client negotiation with " ++ host ++ ":" ++ service)
    (negotiateClient scope fd host flags.tls.isStrict)
  let h ← Handle.create fd p flags session
  let (_, h) ← h.settle do
    Handle.refreshNear
    Handle.refreshFar
    Handle.joinPeer
  record .debug (h.name ++ ": " ++ p.text ++ " connected to " ++ host ++ ":" ++ service)
  pure h

/-! ## Binding and accepting -/

/-- A handle bound to a host, or to every address of the machine, and a service. -/
def bind (scope : Scope) (host : Option String) (service : String) (p : Protocol)
    (flags : Flags) : Attempt Error Handle := do
  let fd ← Opening.bind scope host service p
  let h ← Handle.create fd p flags.requested none
  let (_, h) ← h.settle Handle.refreshNear
  let (text, near) := h.near.host
  record .debug (h.name ++ ": " ++ p.text ++ " bound to " ++ text.getD "*" ++ ":" ++ service)
  pure { h with near := near }

/-- Let a handle wait for connections. -/
def listen (scope : Scope) (h : Handle) : Attempt Error Unit := do
  let config := (← context scope).config
  match h.descriptor with
  | none => throw (.system "descriptor" (.plain .notConnected))
  | some fd => require "listen" (.listen fd config.backlog)

/-- A handle for the next connection that waits on another. -/
def accept (scope : Scope) (listener : Handle) : Attempt Error Handle := do
  match listener.descriptor with
  | none => throw (.system "descriptor" (.plain .notConnected))
  | some waiting =>
    let (fd, peer) ← require "accept" (.accept waiting)
    let flags := listener.flags.requested
    let session ← sessionFor fd flags (listener.name ++ ": TLS server negotiation")
      (negotiateServer scope fd)
    let h ← Handle.create fd listener.protocol flags session
    let (_, h) ← h.settle do
      Handle.setFar peer
      Handle.refreshNear
    let (text, far) := h.far.host
    record .debug (h.name ++ ": accepted on " ++ listener.name ++ " from " ++
      text.getD "<unknown>")
    pure { h with far := far }

/-! ## Pairs -/

/-- Two handles that are connected with each other. -/
def socketpair : Attempt Error (Handle × Handle) := do
  let (a, b) ← require "socketpair" (.socketpair .unix .dgram 0)
  let a ← Handle.create a .unix {} none
  let b ← Handle.create b .unix {} none
  record .debug (a.name ++ " and " ++ b.name ++ ": socket pair")
  pure (a, b)

end Net

/-- Connect a handle to another host and service. It leaves the group it had joined; a new peer
that is a group is joined. -/
def Handle.reconnect (scope : Scope) (host service : String) : Handle.Act Unit := do
  let h ← get
  if h.flags.tls.enabled then throw (.misuse h.protocol "reconnect with TLS")
  Handle.releaseGroup
  let fd ← Handle.owned
  Handle.Act.ofAttempt (Opening.connectAgain scope fd host service h.protocol)
  Handle.refreshNear
  Handle.refreshFar
  Handle.joinPeer
  Handle.record .debug ("reconnected to " ++ host ++ ":" ++ service)

end Sockets
