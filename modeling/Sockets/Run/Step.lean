import Sockets.Builder
import Sockets.Handle.Info
import Sockets.Handle.Transfer
import Sockets.Kernel.Script
import Sockets.Run.Table

/-!
# Runs

A run uses the library step by step. Each step opens, uses or ends handles that are known by
name, or lets something happen in the kernel, and has a reply. A handle whose name is given to
another one is dropped, and so are the handles that are left at the end.

## Main definitions

* `Sockets.Step`, `Sockets.Reply` — the steps of a run, and their replies.
* `Sockets.Run` — the world and the handles that are alive.
* `Sockets.Run.step` — the reply to a step, and the run after it.
* `Sockets.Run.finish` — the run after the handles that are left have been dropped.
-/

set_option autoImplicit false

namespace Sockets

/-! ## Steps and replies -/

/-- The last step of a builder. -/
inductive BuilderEnd where
  | connect (host service : String)
  | bind (host : Option String) (service : String)
  | listen (host service : String)
  deriving DecidableEq, Repr, Inhabited

/-- A step of a run. -/
inductive Step where
  | connect (as : String) (scope : Scope) (host service : String) (p : Protocol) (flags : Flags)
  | bind (as : String) (scope : Scope) (host : Option String) (service : String) (p : Protocol)
      (flags : Flags)
  | build (as : String) (b : Builder) (last : BuilderEnd)
  | accept (as : String) (scope : Scope) (name : String)
  | socketpair (first second : String)
  | reconnect (name : String) (scope : Scope) (host service : String)
  | setDestination (name : String) (a : Address)
  | joinGroup (name : String) (group : Address) (interface : Interface)
  | listen (name : String) (scope : Scope)
  | close (name : String)
  | drop (name : String)
  | info (name : String)
  | tell (name : String) (q : Handle.Question)
  | read (name : String) (buffer : Bytes) (side : Option SideData) (flags : MessageFlags)
  | readVec (name : String) (length : Nat) (side : Option SideData) (flags : MessageFlags)
  | write (name : String) (data : Bytes) (side : Option SideData) (flags : MessageFlags)
  | joinRaw (name : String) (group : Address) (interface : Interface)
  | leaveRaw (name : String) (group : Address)
  | compare (first second : String)
  | feed (name : String) (item : Item)
  | finish (name : String)
  | script (s : Script)

/-- The reply to a step. -/
inductive Reply where
  | unknownName
  | failed (e : Error)
  | opened
  | paired (order : Ordering)
  | ended (result : Except Error Unit)
  | dropped
  | info (i : Handle.Info)
  | told (a : Handle.Answer)
  | filled (result : Except Error Reading) (side : Option SideData)
  | received (result : Except Error Bytes) (side : Option SideData)
  | sent (result : Except Error Nat)
  | joined (result : Except Error Membership)
  | compared (order : Ordering) (greatest : Int)
  | nothing

/-- The world, and the handles that are alive. -/
structure Run where
  world : World
  table : Table

namespace Run

/-! ## Parts of steps -/

/-- Drop a handle, if there is one. -/
def dropAny : Option Handle → Net Unit
  | some h => h.drop
  | none => pure ()

/-- Store a new handle under a name; a handle that had the name is dropped. -/
def store (t : Table) (name : String) (h : Handle) : Net Table := do
  dropAny (t.get? name)
  pure (t.insert name h)

/-- Open a handle under a name. -/
def openAs (t : Table) (name : String) (x : Attempt Error Handle) : Net (Reply × Table) := do
  match ← x.run with
  | .error e => pure (.failed e, t)
  | .ok h =>
    let t ← store t name h
    pure (.opened, t)

/-- Open two handles under two names. -/
def openPair (t : Table) (first second : String) : Net (Reply × Table) := do
  match ← Net.socketpair.run with
  | .error e => pure (.failed e, t)
  | .ok (a, b) =>
    let t ← store t first a
    let t ← store t second b
    pure (.paired (a.compare b), t)

/-- Operate on a handle, and say how it ended. -/
def change (t : Table) (name : String) (h : Handle) (x : Handle.Act Unit) :
    Net (Reply × Table) := do
  let (result, h) ← x.on h
  pure (.ended result, t.insert name h)

/-- Transfer data on a handle. -/
def transfer {α : Type} (t : Table) (name : String) (x : Net (Transfer α))
    (reply : Transfer α → Reply) : Net (Reply × Table) := do
  let done ← x
  pure (reply done, t.insert name done.handle)

/-- Let something happen in the kernel. -/
def happen (f : Kernel → Kernel) : Net Unit := modify fun w => { w with kernel := f w.kernel }

/-- Let something happen in the kernel to the descriptor of a handle. -/
def happenOn (h : Handle) (f : Kernel → Descriptor → Kernel) : Net Unit :=
  match h.descriptor with
  | some fd => happen fun k => f k fd
  | none => pure ()

/-- The descriptor of a handle, for operations that work on descriptors. -/
def onDescriptor {α : Type} (h : Handle) (f : Descriptor → Attempt Error α) :
    Net (Except Error α) :=
  match h.descriptor with
  | some fd => (f fd).run
  | none => pure (.error (.system "descriptor" (.plain .notConnected)))

/-! ## Steps -/

/-- A step on the handle of a name. -/
def onHandle (t : Table) (name : String) (f : Handle → Net (Reply × Table)) :
    Net (Reply × Table) :=
  match t.get? name with
  | none => pure (.unknownName, t)
  | some h => f h

/-- The last step of a builder. -/
def lastStep (b : Builder) : BuilderEnd → Attempt Error Handle
  | .connect host service => b.connect host service
  | .bind host service => b.bind host service
  | .listen host service => b.listen host service

/-- The reply to a step, and the handles that are alive after it. -/
def perform (t : Table) : Step → Net (Reply × Table)
  | .connect as scope host service p flags => openAs t as (Net.connect scope host service p flags)
  | .bind as scope host service p flags => openAs t as (Net.bind scope host service p flags)
  | .build as b last => openAs t as (lastStep b last)
  | .accept as scope name => onHandle t name fun h => openAs t as (Net.accept scope h)
  | .socketpair first second => openPair t first second
  | .reconnect name scope host service => onHandle t name fun h =>
      change t name h (Handle.reconnect scope host service)
  | .setDestination name a => onHandle t name fun h => change t name h (Handle.setDestination a)
  | .joinGroup name group interface => onHandle t name fun h =>
      change t name h (Handle.joinGroup group interface)
  | .listen name scope => onHandle t name fun h => do
      let result ← (Net.listen scope h).run
      pure (.ended result, t)
  | .close name => onHandle t name fun h => do
      let result ← h.close
      pure (.ended result, t.erase name)
  | .drop name => onHandle t name fun h => do
      h.drop
      pure (.dropped, t.erase name)
  | .info name => onHandle t name fun h =>
      let (i, h) := h.info
      pure (.info i, t.insert name h)
  | .tell name q => onHandle t name fun h =>
      pure (.told (h.tell q).1, t.insert name (h.tell q).2)
  | .read name buffer side flags => onHandle t name fun h =>
      transfer t name (h.read buffer side flags) fun d => .filled d.result d.side
  | .readVec name length side flags => onHandle t name fun h =>
      transfer t name (h.readVec length side flags) fun d => .received d.result d.side
  | .write name data side flags => onHandle t name fun h =>
      transfer t name (h.write data side flags) fun d => .sent d.result
  | .joinRaw name group interface => onHandle t name fun h => do
      let result ← onDescriptor h fun fd => Membership.join fd group interface
      pure (.joined result, t)
  | .leaveRaw name group => onHandle t name fun h => do
      let result ← onDescriptor h fun fd => Membership.leave fd group
      pure (.ended result, t)
  | .compare first second => onHandle t first fun a => onHandle t second fun b =>
      pure (.compared (a.compare b) (max a.number b.number), t)
  | .feed name item => onHandle t name fun h => do
      happenOn h fun k fd => k.feed fd item
      pure (.nothing, t)
  | .finish name => onHandle t name fun h => do
      happenOn h fun k fd => k.finish fd
      pure (.nothing, t)
  | .script s => do
      happen fun k => k.amend s
      pure (.nothing, t)

/-- The reply to a step, and the run after it. -/
def step (r : Run) (s : Step) : Reply × Run :=
  let ((reply, table), world) := perform r.table s r.world
  (reply, ⟨world, table⟩)

/-- The run after some steps. -/
def steps (r : Run) : List Step → Run
  | [] => r
  | s :: rest => steps (r.step s).2 rest

/-- Drop handles, one after the other. -/
def dropAll : List Handle → Net Unit
  | [] => pure ()
  | h :: rest => do
    h.drop
    dropAll rest

/-- The run after the handles that are left have been dropped, in the order of their names. -/
def finish (r : Run) : Run :=
  let (_, world) := dropAll r.table.handles r.world
  ⟨world, []⟩

end Run

end Sockets
