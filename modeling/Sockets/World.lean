import Sockets.Context
import Sockets.Event
import Sockets.Kernel.Basic
import Sockets.Services.Table

/-!
# The world

What an operation of the library works on: the kernel, the events so far, the contexts, and the
few things that a process has once. An operation is a function of the world; it changes the
kernel only by system calls, each of which is an event.

## Main definitions

* `Sockets.Setting` — what surrounds the library and is never changed by it.
* `Sockets.World` — the state of everything outside a handle.
* `Sockets.Net`, `Sockets.Attempt` — operations on the world, and those that may fail.
* `Sockets.Net.syscall`, `Sockets.Net.record` — a system call and a log record.

## Main results

* `Sockets.Net.syscall_journal` — a system call is one more event.
-/

set_option autoImplicit false

namespace Sockets

/-- What the library was built with. -/
structure Features where
  /-- Whether messages of SCTP carry headers. -/
  sctpMessages : Bool := false
  /-- Whether standard error shows every record. -/
  verboseLog : Bool := false
  deriving DecidableEq, Repr, Inhabited

/-- The services database: not read yet, or read into a table. -/
inductive ServiceBook where
  | unread (content : FileContent)
  | read (table : List ServiceEntry)
  deriving Repr, Inhabited

/-- What surrounds the library and is never changed by it. -/
structure Setting where
  features : Features := {}
  /-- The credential file that the environment names. -/
  credentialVariable : Option String := none
  /-- The files with the certificates of the machine. -/
  nativeStores : List String := []
  /-- Whether there is memory for a buffer of so many octets. -/
  reservable : Nat → Bool := fun _ => true
  /-- The encryption library. -/
  encryption : Tls.Library := {}

/-- The state of everything outside a handle. -/
structure World extends Setting where
  kernel : Kernel := {}
  /-- The events so far, oldest first. -/
  journal : List Event := []
  /-- The number of the next handle. -/
  nextId : Nat := 1
  /-- The number of the next connection that is encrypted by the library itself. -/
  nextConnection : Nat := 0
  services : ServiceBook := .unread (.refused 2)
  sink : Sink := .installed
  /-- The context that the application made. -/
  own : Context := {}
  /-- The context that the process shares, once it is there. -/
  shared : Option Context := none

/-- An operation on the world that always gives an answer. -/
abbrev Net := StateM World

/-- An operation on the world that may fail. -/
abbrev Attempt (ε : Type) := ExceptT ε Net

namespace World

/-- The world with one more event. -/
def noting (w : World) (e : Event) : World := { w with journal := w.journal ++ [e] }

/-- The context of a scope. -/
def context (w : World) : Scope → Context
  | .own => w.own
  | .shared => w.shared.getD {}

/-- The world with the context of a scope in place of the one it had. -/
def withContext (w : World) (scope : Scope) (c : Context) : World :=
  match scope with
  | .own => { w with own := c }
  | .shared => { w with shared := some c }

/-- The context put in place is the one found. -/
@[simp] theorem context_withContext (w : World) (scope : Scope) (c : Context) :
    (w.withContext scope c).context scope = c := by
  cases scope <;> rfl

end World

namespace Net

/-- Note an event. -/
def note (e : Event) : Net Unit := modify fun w => w.noting e

/-- Write a log record to the sink in place. -/
def record (level : Level) (message : String) : Net Unit :=
  modify fun w => w.noting (.record w.sink level message)

/-- Make a system call. -/
def syscall (c : Call) : Net (Except Int c.Answer) := fun w =>
  let (outcome, kernel) := w.kernel.perform c
  (outcome, { w with kernel := kernel, journal := w.journal ++ [.call c outcome] })

/-- A system call is one more event. -/
theorem syscall_journal (c : Call) (w : World) :
    (syscall c w).2.journal = w.journal ++ [.call c (w.kernel.perform c).1] := rfl

/-- A system call leaves the kernel as the kernel says. -/
theorem syscall_kernel (c : Call) (w : World) :
    (syscall c w).2.kernel = (w.kernel.perform c).2 := rfl

/-- What surrounds the library. -/
def setting : Net Setting := fun w => (w.toSetting, w)

/-- The time, in seconds. -/
def now : Net Nat := fun w => (w.kernel.clock, w)

/-- A number for a connection that no other has. -/
def numberConnection : Net Nat := fun w =>
  (w.nextConnection, { w with nextConnection := w.nextConnection + 1 })

/-- The context of a scope; the shared one is made when it is first used. -/
def context (scope : Scope) : Net Context := fun w =>
  let c := w.context scope
  (c, w.withContext scope c)

/-- The fault of a path that no file can have. -/
def nulInPath : Fault := .custom .invalidInput "file name contained an unexpected NUL byte"

/-- Read a file. -/
def readFile (path : String) : Attempt Fault Bytes := do
  if path.toList.contains '\x00' then throw nulInPath
  match ← syscall (.openFile path) with
  | .ok (content : Bytes) => pure content
  | .error n => throw (.os n)

/-- How an operation that may fail ends, as an answer. -/
def outcome {ε α : Type} (x : Attempt ε α) : Attempt ε (Except ε α) := ExceptT.lift x.run

/-- Write a log record and fail. -/
def refuse {ε α : Type} (level : Level) (message : String) (e : ε) : Attempt ε α := do
  record level message
  throw e

/-- Fail because of a system call, which a log record says first. -/
def systemFailure {α : Type} (context : String) (fault : Fault) : Attempt Error α :=
  refuse .error (context ++ ": " ++ fault.message) (.system context fault)

/-- Make a system call; if it fails, so does the operation, and a log record says so first. -/
def require (context : String) (c : Call) : Attempt Error c.Answer := do
  match ← syscall c with
  | .ok answer => pure answer
  | .error n => systemFailure context (.os n)

/-- Install a sink for log records; whether there was none before. -/
def installSink : Net Bool := fun w =>
  (w.sink == .standardError, { w with sink := .installed })

/-- Install the shared context; whether there was none before. -/
def installShared (c : Context) : Net Bool := fun w =>
  match w.shared with
  | some _ => (false, w)
  | none => (true, { w with shared := some c })

end Net

end Sockets
