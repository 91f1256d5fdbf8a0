import Sockets.Opening.Candidates

/-!
# Binding descriptors

A fresh descriptor is bound to the first candidate that works. Reuse of the address is asked for
before that, but not insisted on; the options of SCTP are insisted on.

## Main definitions

* `Sockets.Opening.setSctpOptions` — the options that a listener of SCTP needs.
* `Sockets.Opening.bind` — a fresh descriptor, bound.
-/

set_option autoImplicit false

namespace Sockets

namespace Opening

/-- Bind a fresh descriptor to the local socket at a path. -/
def bindLocal (path : Option String) : Attempt Error Descriptor := do
  match path with
  | none => throw (.address (.noName ""))
  | some path =>
    let address ← localAddress path
    let fd ← localSocket
    match ← Net.syscall (.bind fd address) with
    | .ok _ =>
      Net.record .debug ("bound " ++ path)
      pure fd
    | .error n => do
      Net.record .error ("bind: " ++ (Fault.os n).message)
      Net.discard fd
      throw (.system "bind" (.os n))

/-- The events of SCTP that a listener subscribes to: the headers of messages, and no other. -/
def eventMask : Bytes := 1 :: List.replicate 9 0

/-- Set the options that a listener of SCTP needs: its stream counts, and the events. -/
def setSctpOptions (fd : Descriptor) (c : SctpConfig) : Net (Except Fault Unit) := do
  match ← Net.syscall
      (.setsockopt fd (.sctpInit c.outStreams c.inStreams c.attempts c.timeout)) with
  | .error n => pure (.error (.os n))
  | .ok _ =>
    match ← Net.syscall (.setsockopt fd (.sctpEvents eventMask)) with
    | .error n => pure (.error (.os n))
    | .ok _ => pure (.ok ())

/-- Ask for reuse of the address on a descriptor, if the settings say so. -/
def askReuse (fd : Descriptor) (c : Config) (target : String) : Net Unit := do
  if c.reuseAddress then
    match ← Net.syscall (.setsockopt fd .reuseAddress) with
    | .ok _ => pure ()
    | .error n => Net.record .warn ("SO_REUSEADDR on " ++ target ++ ": " ++ (Fault.os n).message)

/-- Say that a step for a candidate failed, and close its descriptor. -/
def giveUp (fd : Descriptor) (step : String) (f : Fault) : Net (Except Fault Descriptor) := do
  Net.record .debug (step ++ " failed: " ++ f.message)
  Net.discard fd
  pure (.error f)

/-- A fresh descriptor, bound to a candidate. -/
def bindTo (c : Config) (p : Protocol) (candidate : Candidate) :
    Net (Except Fault Descriptor) := do
  let target := candidate.address.describe
  match ← socketFor candidate with
  | .error f =>
    Net.record .debug ("socket for " ++ target ++ " failed: " ++ f.message)
    pure (.error f)
  | .ok fd =>
    askReuse fd c target
    match ← if p = .sctp then setSctpOptions fd c.sctp else pure (.ok ()) with
    | .error f => giveUp fd ("SCTP options on " ++ target) f
    | .ok () =>
      match ← Net.syscall (.bind fd candidate.address) with
      | .ok _ =>
        Net.record .debug ("bound " ++ target)
        pure (.ok fd)
      | .error n => giveUp fd ("bind " ++ target) (.os n)

/-- A fresh descriptor, bound to the first of some candidates that works, or the failure of the
last. -/
def bindFirst (c : Config) (p : Protocol) (last : Option Fault) :
    List Candidate → Net (Except (Option Fault) Descriptor)
  | [] => pure (.error last)
  | candidate :: rest => do
    match ← bindTo c p candidate with
    | .ok fd => pure (.ok fd)
    | .error f => bindFirst c p (some f) rest

/-- A fresh descriptor, bound to a host, or to every address of the machine, and a service. -/
def bind (scope : Scope) (host : Option String) (service : String) (p : Protocol) :
    Attempt Error Descriptor := do
  if p = .unix then bindLocal host
  else
    let config := (← Net.context scope).config
    let found ← candidates scope host service (.listening p config.family)
    match ← bindFirst config p none found with
    | .ok fd => pure fd
    | .error last => exhausted "bind" host service last

end Opening

end Sockets
