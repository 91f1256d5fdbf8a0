import Sockets.Handle.Addresses

/-!
# Tearing handles down

A handle is torn down in three steps, each only if it applies: it leaves its group, shuts its
session down, and closes its descriptor. Every step is taken whatever became of those before. A
handle that is dropped is torn down too, if it has not been closed.

## Main definitions

* `Sockets.Handle.teardown` — the three steps, and how closing ended.
* `Sockets.Handle.close` — tear a handle down and say how closing ended.
* `Sockets.Handle.drop` — tear a handle down that nobody needs any more.

## Main results

* `Sockets.Handle.drop_of_closed` — dropping a handle that is torn down does nothing.
-/

set_option autoImplicit false

namespace Sockets

namespace Handle

/-- The handle without its group, which it has left if it had joined one. -/
def partGroup (fd : Descriptor) (h : Handle) : Net Handle := do
  if h.flags.joined then
    match h.membership with
    | some m =>
      leaveGroup h.id fd m
      pure { h with membership := none }
    | none => pure h
  else pure h

/-- Shut a session down on a descriptor; a failure is only recorded. -/
def shutSession (id : Nat) (fd : Descriptor) (s : Tls.Session) : Net Unit := do
  let name := "sock#" ++ toString id
  Net.record .debug (name ++ ": shutting down TLS session")
  let (answer, _) := s.takeShutdown
  Net.note (.tls fd .shutdown (.ofUnit answer))
  match answer with
  | .ok () => pure ()
  | .error e => Net.record .warn (name ++ ": TLS shutdown: " ++ e.message)

/-- The handle without its session, which is shut down if the handle is encrypted. -/
def partSession (fd : Descriptor) (h : Handle) : Net Handle := do
  if h.flags.tls.enabled then
    match h.session with
    | some s =>
      shutSession h.id fd s
      pure { h with session := none }
    | none => pure h
  else pure h

/-- Close the descriptor of a handle. -/
def closeDescriptor (fd : Descriptor) (h : Handle) : Net (Except Error Unit) := do
  Net.record .debug (h.name ++ ": closing descriptor")
  (Net.require "close" (.close fd)).run

/-- Tear a handle down: how closing ended, and what is left of the handle. -/
def teardown (h : Handle) : Net (Except Error Unit × Handle) := do
  match h.descriptor with
  | none => pure (.ok (), h)
  | some fd =>
    let h ← partGroup fd { h with descriptor := none }
    let h ← partSession fd h
    let status ← closeDescriptor fd h
    pure (status, { h with near := h.near.forgetHost, far := h.far.forgetHost })

/-- Drop a handle that nobody needs any more. -/
def drop (h : Handle) : Net Unit := do
  match h.descriptor with
  | none => pure ()
  | some _ =>
    match ← h.teardown with
    | (.ok (), _) => pure ()
    | (.error e, _) => Net.record .warn (h.name ++ ": close on drop: " ++ e.message)

/-- Close a handle, which is dropped then: how closing ended. -/
def close (h : Handle) : Net (Except Error Unit) := do
  let (status, rest) ← h.teardown
  rest.drop
  pure status

/-- Dropping a handle that is torn down does nothing. -/
theorem drop_of_closed {h : Handle} (hd : h.descriptor = none) (w : World) :
    h.drop w = ((), w) := by
  unfold drop
  rw [hd]
  rfl

/-- Run an operation on a new handle. If it fails the handle is dropped. -/
def settle {α : Type} (h : Handle) (x : Act α) : Attempt Error (α × Handle) := do
  let (result, h) ← x.on h
  match result with
  | .ok a => pure (a, h)
  | .error e =>
    h.drop
    throw e

end Handle

end Sockets
