import Sockets.Opening.Candidates

/-!
# Connecting descriptors

A fresh descriptor is connected to the first candidate that can be reached. A descriptor that is
there already is connected again, to candidates of the family it has.

## Main definitions

* `Sockets.Opening.connect` — a fresh descriptor, connected.
* `Sockets.Opening.connectAgain` — a descriptor that is there already, connected again.
-/

set_option autoImplicit false

namespace Sockets

namespace Opening

/-! ## Local sockets -/

/-- Connect a descriptor to the local socket at a path. -/
def connectLocalTo (fd : Descriptor) (path : String) : Attempt Error Unit := do
  let address ← localAddress path
  let _ ← Net.require "connect" (.connect fd address)
  Net.record .debug ("connected to " ++ path)

/-- A fresh descriptor, connected to the local socket at a path. -/
def connectLocal (path : String) : Attempt Error Descriptor := do
  let fd ← localSocket
  match ← Net.outcome (connectLocalTo fd path) with
  | .ok () => pure fd
  | .error e =>
    Net.discard fd
    throw e

/-! ## Candidates -/

/-- A fresh descriptor, connected to a candidate. -/
def connectTo (c : Candidate) : Net (Except Fault Descriptor) := do
  match ← socketFor c with
  | .error f => pure (.error f)
  | .ok fd =>
    match ← Net.syscall (.connect fd c.address) with
    | .ok _ => pure (.ok fd)
    | .error n =>
      Net.discard fd
      pure (.error (.os n))

/-- Say that a candidate could not be reached. -/
def recordFailure (address : Address) (f : Fault) : Net Unit :=
  Net.record .debug ("connect to " ++ address.describe ++ " failed: " ++ f.message)

/-- A fresh descriptor, connected to the first of some candidates that can be reached, or the
failure of the last. -/
def connectFirst (last : Option Fault) : List Candidate → Net (Except (Option Fault) Descriptor)
  | [] => pure (.error last)
  | c :: rest => do
    match ← connectTo c with
    | .ok fd => do
      Net.record .debug ("connected to " ++ c.address.describe)
      pure (.ok fd)
    | .error f => do
      recordFailure c.address f
      connectFirst (some f) rest

/-- A fresh descriptor, connected to a host and a service. -/
def connect (scope : Scope) (host service : String) (p : Protocol) : Attempt Error Descriptor := do
  if p = .unix then connectLocal host
  else
    let config := (← Net.context scope).config
    let found ← candidates scope (some host) service (.active p config.family)
    match ← connectFirst none found with
    | .ok fd => pure fd
    | .error last => exhausted "connect" (some host) service last

/-! ## Descriptors that are there already -/

/-- Connect a descriptor to the first of some candidates that can be reached. -/
def connectFirstAgain (fd : Descriptor) (last : Option Fault) :
    List Candidate → Net (Except (Option Fault) Unit)
  | [] => pure (.error last)
  | c :: rest => do
    match ← Net.syscall (.connect fd c.address) with
    | .ok _ => do
      Net.record .debug ("reconnected to " ++ c.address.describe)
      pure (.ok ())
    | .error n => do
      recordFailure c.address (.os n)
      connectFirstAgain fd (some (.os n)) rest

/-- The family of a descriptor, as far as the kernel tells. -/
def familyOf (fd : Descriptor) : Net (Option Family) := do
  match ← Net.syscall (.getsockname fd) with
  | .ok (address : Address) => pure address.family?
  | .error _ => pure none

/-- Connect a descriptor that is there already to a host and a service. -/
def connectAgain (scope : Scope) (fd : Descriptor) (host service : String) (p : Protocol) :
    Attempt Error Unit := do
  if p = .unix then connectLocalTo fd host
  else
    let family ← familyOf fd
    let found ← candidates scope (some host) service (.active p family)
    match ← connectFirstAgain fd none found with
    | .ok () => pure ()
    | .error last => exhausted "connect" (some host) service last

end Opening

end Sockets
