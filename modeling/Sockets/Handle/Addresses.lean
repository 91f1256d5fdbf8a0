import Sockets.Handle.Basic

/-!
# Addresses and groups of a handle

The near address of a handle is what the kernel says; the far address is the peer, or for a
datagram handle the destination that was set. A handle joins one group at most, on demand or
because its peer is a group, and remembers which.

## Main definitions

* `Sockets.Handle.refreshNear`, `Sockets.Handle.refreshFar` — ask the kernel for the addresses.
* `Sockets.Handle.joinPeer`, `Sockets.Handle.joinGroup` — join the group of the peer, or a given
  one.
* `Sockets.Handle.releaseGroup` — leave the group that was joined.
* `Sockets.Handle.setDestination` — set where datagrams go.
-/

set_option autoImplicit false

namespace Sockets

namespace Handle

/-! ## Addresses -/

/-- An address that the kernel knows of a descriptor; `name` names the call that asks for it. -/
def ask (name : String) (c : Descriptor → Call)
    (read : (fd : Descriptor) → (c fd).Answer → Address) : Act Address := do
  let fd ← owned
  match ← Act.ofNet (Net.syscall (c fd)) with
  | .ok answer => pure (read fd answer)
  | .error n =>
    record .error (name ++ ": " ++ (Fault.os n).message)
    throw (.system name (.os n))

/-- Ask the kernel for the near address. -/
def refreshNear : Act Unit := do
  let address ← ask "getsockname" .getsockname fun _ a => a
  modify fun h => { h with near := .ofAddress address }

/-- Put the far address in place. -/
def setFar (a : Address) : Act Unit := modify fun h => { h with far := .ofAddress a }

/-- Ask the kernel for the far address. -/
def refreshFar : Act Unit := do
  let address ← ask "getpeername" .getpeername fun _ a => a
  setFar address

/-! ## Groups -/

/-- Remember a membership. -/
def recordMembership (m : Membership) : Act Unit := do
  record .debug ("joined " ++ m.group.text)
  modify fun h => { h with membership := some m, flags := h.flags.withGroup }

/-- Join the group of the peer, if the peer is a group and none is joined. -/
def joinPeer : Act Unit := do
  let h ← get
  match h.far.address with
  | none => pure ()
  | some a =>
    if h.flags.joined || a.isMulticast? != some true then pure ()
    else do
      let fd ← owned
      let m ← Act.ofAttempt (Membership.join fd a .any)
      recordMembership m

/-- Leave the group of a membership on a descriptor; a failure is only recorded. -/
def leaveGroup (id : Nat) (fd : Descriptor) (m : Membership) : Net Unit := do
  let name := "sock#" ++ toString id
  Net.record .debug (name ++ ": leaving multicast group " ++ m.group.text)
  match ← (Membership.leave fd (.ofIp m.group 0)).run with
  | .ok () => pure ()
  | .error e => Net.record .warn (name ++ ": multicast leave: " ++ e.message)

/-- Leave the group that was joined, if one was. -/
def releaseGroup : Act Unit := do
  let h ← get
  match h.membership with
  | none => pure ()
  | some m =>
    match h.descriptor with
    | some fd => Act.ofNet (leaveGroup h.id fd m)
    | none => pure ()
    modify fun h => { h with membership := none, flags := h.flags.requested }

/-- Join a group through an interface. Only datagram handles that have joined none can. -/
def joinGroup (group : Address) (interface : Interface) : Act Unit := do
  let h ← get
  if h.protocol ≠ .udp then throw (.misuse h.protocol "join_multicast")
  if h.flags.joined then throw (.misuse h.protocol "a second multicast join")
  let fd ← owned
  let m ← Act.ofAttempt (Membership.join fd group interface)
  recordMembership m

/-! ## Destinations -/

/-- Set where datagrams go. Only datagram handles have a destination, at an internet address. -/
def setDestination (a : Address) : Act Unit := do
  let h ← get
  if h.protocol ≠ .udp then throw (.misuse h.protocol "set_dest")
  if a.ip? = none then throw .family
  record .debug ("destination " ++ a.describe)
  setFar a

end Handle

end Sockets
