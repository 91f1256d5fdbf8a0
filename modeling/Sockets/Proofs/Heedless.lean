import Sockets.Proofs.HandleFrames
import Sockets.Proofs.SideBySide

/-!
# Operations that take no heed of the journal

To connect a handle again takes queries, system calls and log records, and none of these depends on
what was written to the journal before. So the operation is the same whatever the journal says, and
the journal is what a failure to leave a group goes into.

All statements are about a steady relation between worlds: that to be one world, and to be the same
apart from the journal, are such relations is known.

## Main definitions

* `Sockets.Handle.connectOver` — connecting a handle again, once it has left its group.

## Main results

* `Sockets.Handle.alike_reconnect` — connecting handles that are alike again runs alike.
-/

set_option autoImplicit false

namespace Sockets

open Net (Alike Steady)

variable {I : World → World → Prop}

/-! ## Handles -/

namespace Handle

/-- What connecting a handle again takes once it has left its group: its descriptor is connected,
the kernel is asked for the addresses, and the group of the peer is joined. -/
def connectOver (scope : Scope) (host service : String) (p : Protocol) : Act Unit := do
  let fd ← owned
  Act.ofAttempt (Opening.connectAgain scope fd host service p)
  refreshNear
  refreshFar
  joinPeer
  record .debug ("reconnected to " ++ host ++ ":" ++ service)

variable (hI : Steady I)
include hI

/-- A log record about handles. -/
lemma alike_record (level : Level) (message : String) :
    Act.Alike I (record level message) (record level message) :=
  .get_bind (fun _ => rfl) fun _ => .ofNet (hI.record _ _)

/-- Asking the kernel for an address. -/
lemma alike_ask (name : String) (c : Descriptor → Call)
    (read : (fd : Descriptor) → (c fd).Answer → Address) :
    Act.Alike I (ask name c read) (ask name c read) := by
  refine .bind .owned fun fd => .bind (.ofNet (hI.call _)) fun r => ?_
  cases r with
  | ok answer => exact .pure _
  | error n => exact .bind (alike_record hI _ _) fun _ => .throw _

/-- Asking the kernel for the near address. -/
lemma alike_refreshNear : Act.Alike I refreshNear refreshNear :=
  .bind (alike_ask hI _ _ _) fun a => .modify fun _ _ hgh => hgh.near a

omit hI in
/-- Putting the far address in place. -/
lemma alike_setFar (a : Address) : Act.Alike I (setFar a) (setFar a) :=
  .modify fun _ _ hgh => hgh.far a

/-- Asking the kernel for the far address. -/
lemma alike_refreshFar : Act.Alike I refreshFar refreshFar :=
  .bind (alike_ask hI _ _ _) alike_setFar

/-- Remembering a membership. -/
lemma alike_recordMembership (m : Membership) :
    Act.Alike I (recordMembership m) (recordMembership m) :=
  .bind (alike_record hI _ _) fun _ => .modify fun _ _ hgh =>
    hgh.change (f := fun h => { h with membership := some m, flags := h.flags.withGroup })
      (fun _ => rfl) fun _ hi => hi

/-- Joining the group of the peer. -/
lemma alike_joinPeer : Act.Alike I joinPeer joinPeer := by
  refine .get_bind (fun _ => rfl) fun h => ?_
  split
  · exact .pure _
  split
  · exact .pure _
  · exact .bind .owned fun fd => .bind (.ofAttempt ((Membership.made_join fd _ _).alike hI))
      fun m => alike_recordMembership hI m

/-- Leaving the group that was joined. -/
lemma alike_releaseGroup : Act.Alike I releaseGroup releaseGroup := by
  refine .get_bind (fun _ => rfl) fun h => ?_
  split
  · exact .pure _
  · have hdone : Act.Alike I (modify fun h : Handle =>
        { h with membership := none, flags := h.flags.requested })
        (modify fun h => { h with membership := none, flags := h.flags.requested }) :=
      .modify fun _ _ hgh =>
        hgh.change (f := fun h => { h with membership := none, flags := h.flags.requested })
          (fun _ => rfl) fun _ hi => hi
    dsimp only
    split
    · exact .bind (.ofNet ((made_leaveGroup _ _).alike hI)) fun _ => hdone
    · exact hdone

/-- What comes after leaving the group, side by side. -/
lemma alike_connectOver (scope : Scope) (host service : String) (p : Protocol) :
    Act.Alike I (connectOver scope host service p) (connectOver scope host service p) :=
  .bind .owned fun _ => .bind (.ofAttempt ((Opening.made_connectAgain _ _ _ _ _).alike hI)) fun _ =>
    .bind (alike_refreshNear hI) fun _ => .bind (alike_refreshFar hI) fun _ =>
    .bind (alike_joinPeer hI) fun _ => alike_record hI _ _

/-- **Connecting again, side by side.** On handles that are alike, in related worlds, connecting
again ends in the same way and leads to handles that are alike and to related worlds.

**Proof sketch.** Whether it is refused is the same on both handles. Then each leaves its group, and
connects and asks for its ends, and all of that goes alike (`alike_connectOver`). -/
theorem alike_reconnect (scope : Scope) (host service : String) :
    Act.Alike I (reconnect scope host service) (reconnect scope host service) := by
  refine .get_bind (fun _ => rfl) fun h => ?_
  dsimp only
  split
  · exact .throw_bind _ _ _
  · exact .bind (alike_releaseGroup hI) fun _ => alike_connectOver hI _ _ _ _

end Handle

end Sockets
