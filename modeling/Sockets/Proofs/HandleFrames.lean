import Sockets.Builder
import Sockets.Proofs.Footprints

/-!
# Frames of operations on handles

An operation on a handle is made of a few steps: the kernel is asked for an address, a group is left
and another is joined, a descriptor is connected again. Whatever the steps keep the operation keeps,
and most of what can be said of a handle is kept by all of them, because it has nothing to do with
the near end of the handle or with its group. Such a relation between handles and worlds is a frame;
only for the far end, which some frames speak of, there is more to prove.

## Main definitions

* `Sockets.Handle.takeUp` — join a group and remember it.
* `Sockets.Handle.Frame` — a relation that holds whatever the near end and the group of a handle
  are, and whatever system calls are made that name no peer.

## Main results

* `Sockets.Handle.Act.leads_joinPeer`, `Sockets.Handle.Act.leads_joinGroup`,
  `Sockets.Handle.Act.leads_reconnect` — operations by what their steps do.
* `Sockets.Handle.Frame.leads_joinGroup`, `Sockets.Handle.Frame.leads_reconnect`,
  `Sockets.Handle.Frame.leads_joinChosen` — operations keep frames.
-/

set_option autoImplicit false

namespace Sockets

open Event (Within)
open Net (Leads Made Only)

/-! ## System calls of operations -/

/-- The kinds of system calls that name peers. -/
def CallKind.naming : List CallKind := [.getpeername, .accept]

namespace Membership

/-- The kinds of system calls that joining and leaving take. -/
def calls : List CallKind := .setsockopt :: Interface.queries

/-- Joining a group takes an option, after queries about interfaces. -/
lemma made_join (fd : Descriptor) (group : Address) (interface : Interface) :
    Made calls (join fd group interface).run := by
  have hoption (name : String) (option : SocketOption) :
      Made calls (Net.require name (.setsockopt fd option)).run :=
    Net.made_require _ _ (by simp [calls, Call.kind])
  have hrest (m : Membership) : Made calls (do
      Net.record .debug ("joined " ++ m.group.text ++ " via " ++ interface.text)
      pure m : Attempt Error Membership).run :=
    .run_bind (.run_lift (.record _ _)) fun _ => .run_pure m
  unfold join
  split
  · exact .run_bind (Net.made_refuse _ _ _) hrest
  · refine .run_bind (.run_bind ((interface.made_forIpv4).widen (by decide)) fun _ => ?_) hrest
    exact .run_bind (hoption _ _) fun _ => .run_pure _
  · refine .run_bind (.run_bind ((interface.made_forIpv6).widen (by decide)) fun _ => ?_) hrest
    exact .run_bind (hoption _ _) fun _ => .run_pure _

/-- Leaving a group takes an option. -/
lemma made_leave (fd : Descriptor) (group : Address) :
    Made calls (leave fd group).run := by
  unfold leave
  split
  · exact .run_throw _
  · exact Net.made_require _ _ (by simp [calls, Call.kind])
  · exact Net.made_require _ _ (by simp [calls, Call.kind])

end Membership

/-- Tracing takes no system call. -/
lemma Builder.within_trace (b : Builder) (what : String) : Only (Within []) (b.trace what) := by
  unfold trace
  split
  · exact .note rfl trivial
  · exact .pure _

namespace Handle

variable {fd : Descriptor} {h : Handle}

/-- Leaving the group of a handle takes an option. -/
lemma made_leaveGroup (id : Nat) (m : Membership) :
    Made Membership.calls (leaveGroup id fd m) := by
  refine .bind (.record _ _) fun _ => .bind (Membership.made_leave _ _) fun r => ?_
  cases r with
  | ok _ => exact .pure _
  | error e => exact .record _ _

/-! ## Operations by their steps -/

/-- Join a group on a descriptor and remember it. -/
def takeUp (fd : Descriptor) (group : Address) (interface : Interface) : Act Unit := do
  let m ← Act.ofAttempt (Membership.join fd group interface)
  recordMembership m

namespace Act

variable {P : World → Prop} {Q : Except Error Unit × Handle → World → Prop}

/-- To join the group of the peer is to take it up in no group, or to do nothing. -/
lemma leads_joinPeer (hfd : h.descriptor = some fd) (hidle : ∀ w, P w → Q (.ok (), h) w)
    (htake : h.flags.joined = false → ∀ group, Leads P ((takeUp fd group .any).on h) Q) :
    Leads P (joinPeer.on h) Q := by
  refine leads_get_bind ?_
  split
  · exact leads_pure _ hidle
  split
  · exact leads_pure _ hidle
  · rename_i hcond
    simp only [Bool.or_eq_true, not_or, Bool.not_eq_true] at hcond
    exact leads_owned_bind hfd (htake hcond.1 _)

/-- To join a given group is to take it up in no group, or to be refused. -/
lemma leads_joinGroup {group : Address} {interface : Interface} (hfd : h.descriptor = some fd)
    (hrefused : ∀ e w, P w → Q (.error e, h) w)
    (htake : h.flags.joined = false → Leads P ((takeUp fd group interface).on h) Q) :
    Leads P ((joinGroup group interface).on h) Q := by
  refine leads_get_bind ?_
  dsimp only
  split
  · exact leads_throw_bind _ _ (hrefused _)
  split
  · exact leads_throw_bind _ _ (hrefused _)
  · rename_i hj
    exact leads_owned_bind hfd (htake (by simpa using hj))

/-- **Connecting to another peer** keeps what each of its steps keeps.

**Proof sketch.** The steps are taken in the order of the function. Each is only asked for what it
keeps on its own, so any invariant of a handle in a world goes through that the parts keep. -/
theorem leads_reconnect {J : Handle → World → Prop}
    (hfd : ∀ h w, J h w → h.descriptor = some fd)
    (hcalls : ∀ {α : Type} {x : Net α} (h : Handle),
      Only (Within [.connect, .getsockname, .getaddrinfo]) x → Leads (J h) x fun _ => J h)
    (hrelease : ∀ h, Leads (J h) (releaseGroup.on h) fun p => J p.2)
    (hnear : ∀ h, Leads (J h) (refreshNear.on h) fun p => J p.2)
    (hfar : ∀ h, Leads (J h) (refreshFar.on h) fun p => J p.2)
    (hpeer : ∀ h, Leads (J h) (joinPeer.on h) fun p => J p.2)
    (scope : Scope) (host service : String) :
    Leads (J h) ((reconnect scope host service).on h) fun p => J p.2 := by
  refine leads_get_bind ?_
  dsimp only
  split
  · exact leads_throw_bind _ _ fun _ hw => hw
  refine leads_bind (hrelease h) (fun _ i => ?_) fun _ _ _ hw => hw
  refine .assuming (hfd i) fun hi => ?_
  refine leads_owned_bind hi ?_
  refine leads_bind (R := fun p => J p.2)
    (leads_ofAttempt (hcalls i (Opening.made_connectAgain _ _ _ _ _).only))
    (fun _ j => ?_) fun _ _ _ hw => hw
  refine leads_bind (hnear j) (fun _ j => ?_) fun _ _ _ hw => hw
  refine leads_bind (hfar j) (fun _ j => ?_) fun _ _ _ hw => hw
  refine leads_bind (hpeer j) (fun _ j => ?_) fun _ _ _ hw => hw
  exact leads_get_bind (leads_ofNet (hcalls j (.record _ _)))

end Act

/-! ## Frames -/

/-- **A frame**: what is true of a handle that owns a descriptor, and of the world, whatever the
near end and the group of the handle are, and goes on being true through system calls that name no
peer. -/
structure Frame (fd : Descriptor) (J : Handle → World → Prop) : Prop where
  descriptor_eq : ∀ h w, J h w → h.descriptor = some fd
  within : ∀ {α : Type} {x : Net α} {kinds : List CallKind} (h : Handle),
    Only (Within kinds) x → (∀ k ∈ kinds, k ∉ CallKind.naming) → Leads (J h) x fun _ => J h
  near : ∀ h w e, J h w → J { h with near := e } w
  group : ∀ h w m (flags : Flags), flags.tls = h.flags.tls → J h w →
    J { h with membership := m, flags := flags } w

namespace Frame

variable {J : Handle → World → Prop}

/-- A log record keeps a frame. -/
lemma leads_record (hJ : Frame fd J) (level : Level) (message : String) :
    Leads (J h) (Net.record level message) fun _ => J h := by
  have hrecord : Only (Within []) (Net.record level message) := .record _ _
  exact hJ.within h hrecord (List.forall_mem_nil _)

/-- Asking for the near address keeps a frame. -/
lemma leads_refreshNear (hJ : Frame fd J) :
    Leads (J h) (refreshNear.on h) fun p => J p.2 := by
  refine .assuming (hJ.descriptor_eq h) fun hfd => ?_
  have hcall : Only (Within [.getsockname]) (Net.syscall (.getsockname fd)) :=
    .syscall _ (List.mem_singleton_self _)
  refine Act.leads_bind (R := fun p => J p.2) (Act.leads_owned_bind hfd
    (Act.leads_ofNet_bind (hJ.within h hcall (by decide)) fun r => ?_))
    (fun _ i => Act.leads_modify _ fun w hw => hJ.near i w _ hw) fun _ _ _ hw => hw
  cases r with
  | ok answer => exact Act.leads_pure _ fun _ hw => hw
  | error n =>
    exact Act.leads_record_bind (hJ.leads_record _ _) (Act.leads_throw _ fun _ hw => hw)

/-- Taking up a group keeps a frame. -/
lemma leads_takeUp (hJ : Frame fd J) (group : Address) (interface : Interface) :
    Leads (J h) ((takeUp fd group interface).on h) fun p => J p.2 := by
  refine Act.leads_bind (R := fun p => J p.2) (Act.leads_ofAttempt
    (hJ.within h (Membership.made_join _ _ _).only (by decide)))
    (fun m i => ?_) fun _ _ _ hw => hw
  refine Act.leads_record_bind (hJ.leads_record _ _) ?_
  exact Act.leads_modify _ fun w hw => hJ.group i w _ _ rfl hw

/-- Joining the group of the peer keeps a frame. -/
lemma leads_joinPeer (hJ : Frame fd J) : Leads (J h) (joinPeer.on h) fun p => J p.2 :=
  .assuming (hJ.descriptor_eq h) fun hfd =>
    Act.leads_joinPeer hfd (fun _ hw => hw) fun _ _ => hJ.leads_takeUp _ _

/-- Joining a given group keeps a frame. -/
theorem leads_joinGroup (hJ : Frame fd J) (group : Address) (interface : Interface) :
    Leads (J h) ((joinGroup group interface).on h) fun p => J p.2 :=
  .assuming (hJ.descriptor_eq h) fun hfd =>
    Act.leads_joinGroup hfd (fun _ _ hw => hw) fun _ => hJ.leads_takeUp _ _

/-- Joining the group that was asked for keeps a frame. -/
theorem leads_joinChosen (hJ : Frame fd J) (b : Builder) (c : GroupChoice) :
    Leads (J h) ((b.joinChosen c).on h) fun p => J p.2 := by
  unfold Builder.joinChosen
  split
  · exact Act.leads_throw _ fun _ hw => hw
  · refine Act.leads_bind (hJ.leads_joinGroup _ _) (fun _ i => ?_) fun _ _ _ hw => hw
    exact Act.leads_ofNet (hJ.within i (b.within_trace _) (by decide))

/-- Leaving the group that was joined keeps a frame. -/
lemma leads_releaseGroup (hJ : Frame fd J) :
    Leads (J h) (releaseGroup.on h) fun p => J p.2 := by
  refine .assuming (hJ.descriptor_eq h) fun hfd => ?_
  refine Act.leads_get_bind ?_
  cases h.membership with
  | none => exact Act.leads_pure _ fun _ hw => hw
  | some m =>
    dsimp only
    rw [hfd]
    refine Act.leads_ofNet_bind
      (hJ.within h (made_leaveGroup _ _).only (by decide)) fun _ => ?_
    exact Act.leads_modify _ fun w hw => hJ.group h w _ _ rfl hw

/-- What is done when a descriptor has been connected keeps a frame, if asking for the far address
does. -/
lemma leads_arrival (hJ : Frame fd J)
    (hfar : ∀ h, Leads (J h) (refreshFar.on h) fun p => J p.2) :
    Leads (J h) ((do refreshNear; refreshFar; joinPeer).on h) fun p => J p.2 :=
  Act.leads_bind hJ.leads_refreshNear (fun _ i => Act.leads_bind (hfar i)
    (fun _ _ => hJ.leads_joinPeer) fun _ _ _ hw => hw) fun _ _ _ hw => hw

/-- **Connecting to another peer** keeps a frame, if asking for the far address does. -/
theorem leads_reconnect (hJ : Frame fd J)
    (hfar : ∀ h, Leads (J h) (refreshFar.on h) fun p => J p.2)
    (scope : Scope) (host service : String) :
    Leads (J h) ((reconnect scope host service).on h) fun p => J p.2 :=
  Act.leads_reconnect hJ.descriptor_eq
    (fun h hx => hJ.within h hx (by decide)) (fun _ => hJ.leads_releaseGroup)
    (fun _ => hJ.leads_refreshNear) hfar (fun _ => hJ.leads_joinPeer) scope host service

end Frame

end Handle

end Sockets
