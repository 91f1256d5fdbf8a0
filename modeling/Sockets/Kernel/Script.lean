import Sockets.Kernel.Basic

/-!
# Scripts for the kernel

A script tells the kernel beforehand what is going to happen: which calls fail, who connects, and
what hosts and files there are. A later script adds to an earlier one.

## Main definitions

* `Sockets.Script` — a script.
* `Sockets.Kernel.amend` — the kernel with a script added.
* `Sockets.Kernel.feed`, `Sockets.Kernel.finish` — a message that arrives, and the end of data.

## Main results

* `Sockets.Kernel.descriptors_amend` — a script opens and closes nothing.
-/

set_option autoImplicit false

namespace Sockets

/-- What is going to happen. -/
structure Script where
  faults : List (CallKind × List Int) := []
  arrivals : List Arrival := []
  nearNames : List (Option Address) := []
  farNames : List (Option Address) := []
  hosts : List (String × HostAnswer) := []
  files : List (String × FileContent) := []
  /-- The seconds that go by. -/
  elapsed : Nat := 0

namespace Kernel

/-- The scripted faults of a call with more behind them. -/
def moreFaults (faults : CallKind → List Int) (more : List (CallKind × List Int)) :
    CallKind → List Int :=
  fun c => faults c ++ (more.filter fun m => m.1 = c).flatMap Prod.snd

/-- The kernel with a script added. -/
def amend (k : Kernel) (s : Script) : Kernel :=
  { k with
    faults := moreFaults k.faults s.faults
    arrivals := k.arrivals ++ s.arrivals
    nearNames := k.nearNames ++ s.nearNames
    farNames := k.farNames ++ s.farNames
    hosts := s.hosts ++ k.hosts
    files := s.files ++ k.files
    clock := k.clock + s.elapsed }

/-- A script opens and closes nothing. -/
@[simp] theorem descriptors_amend (k : Kernel) (s : Script) :
    (k.amend s).descriptors = k.descriptors := rfl

/-- The kernel after a message has arrived on a descriptor. -/
def feed (k : Kernel) (fd : Descriptor) (item : Item) : Kernel :=
  k.modify fd fun s => { s with queue := s.queue ++ [item] }

/-- The kernel after the end of data has arrived on a descriptor. -/
def finish (k : Kernel) (fd : Descriptor) : Kernel :=
  k.modify fd fun s => { s with ended := true }

/-- A message that arrives opens and closes nothing. -/
@[simp] theorem descriptors_feed (k : Kernel) (fd : Descriptor) (item : Item) :
    (k.feed fd item).descriptors = k.descriptors := by simp [feed]

/-- The end of data opens and closes nothing. -/
@[simp] theorem descriptors_finish (k : Kernel) (fd : Descriptor) :
    (k.finish fd).descriptors = k.descriptors := by simp [finish]

end Kernel

end Sockets
