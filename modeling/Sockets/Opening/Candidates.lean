import Sockets.Address.Failure
import Sockets.Resolution.Resolver

/-!
# Candidates for opening

A socket is opened by trying candidates one after the other. A query without candidates is a
failure of its own; when every candidate has failed, the last failure is the one reported.

## Main definitions

* `Sockets.Opening.candidates` — the candidates of a query, at least one.
* `Sockets.Opening.socketFor` — a descriptor of the kind a candidate asks for.
* `Sockets.Opening.exhausted` — the failure of the last candidate.
* `Sockets.Net.discard` — close a descriptor that belongs to no handle.
-/

set_option autoImplicit false

namespace Sockets

/-- Close a descriptor that belongs to no handle; how that ends is of no interest. -/
def Net.discard (fd : Descriptor) : Net Unit := do
  let _ ← Net.syscall (.close fd)
  pure ()

namespace Opening

/-- The host of a query in messages. -/
def target (host : Option String) : String := host.getD "*"

/-- The candidates of a query, at least one. -/
def candidates (scope : Scope) (host : Option String) (service : String) (hints : Hints) :
    Attempt Error (List Candidate) := do
  let what := "resolve " ++ target host ++ ":" ++ service ++ ": "
  match ← (Net.resolve scope ⟨host, some service, hints⟩).run with
  | .error e => Net.refuse .error (what ++ e.message) (.address e)
  | .ok [] => Net.refuse .error (what ++ "no candidates") (.address (.noName (target host)))
  | .ok found => pure found

/-- A descriptor of the kind that a candidate asks for. -/
def socketFor (c : Candidate) : Net (Except Fault Descriptor) := do
  match ← Net.syscall (.socket c.family c.type (c.protocol.getD 0)) with
  | .ok (fd : Descriptor) => pure (.ok fd)
  | .error n => pure (.error (.os n))

/-- The failure of an operation when there is none of a candidate. -/
def noneUsable : Fault := .custom .addrNotAvailable "no usable address"

/-- The failure of an operation for which every candidate failed, `last` being the failure of the
last one. -/
def exhausted {α : Type} (operation : String) (host : Option String) (service : String)
    (last : Option Fault) : Attempt Error α :=
  let fault := last.getD noneUsable
  Net.refuse .error
    (operation ++ " " ++ target host ++ ":" ++ service ++
      ": every candidate failed, last error: " ++ fault.message)
    (.system operation fault)

/-- The address of a local socket at a path. -/
def localAddress (path : String) : Attempt Error Address :=
  match Address.unixPath? (Text.Utf8.encode path) with
  | some a => pure a
  | none => Net.systemFailure "unix address" .pathTooLong

/-- A fresh descriptor for local streams. -/
def localSocket : Attempt Error Descriptor := Net.require "socket" (.socket .unix .stream 0)

end Opening

end Sockets
