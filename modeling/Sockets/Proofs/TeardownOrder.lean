import Sockets.Proofs.Advance

/-!
# The order of tearing down

Whether it is closed or dropped, a handle leaves its group, then shuts its session down, and then
closes its descriptor, each just if there is one and each once, whatever became of the others. To
close a handle says how the last of these ended; to drop it says so in a record, where that failed.

## Main definitions

* `Sockets.World.actions` — what was done so far, apart from records.
* `Sockets.World.Since` — a world is another one after some actions, which left the contexts.
* `Sockets.Handle.farewell` — what is done when a handle is torn down.
* `Sockets.Handle.TornDown` — a handle is torn down in order.

## Main results

* `Sockets.Run.tornDown_steps` — every handle that is alive is torn down in order.
-/

set_option autoImplicit false

namespace Sockets

open Net (Leads)

/-! ## Actions -/

/-- Whether an event is a log record. -/
def Event.isRecord : Event → Bool
  | record .. => true
  | _ => false

/-- What was done so far, oldest first, apart from log records. -/
def World.actions (w : World) : List Event := w.journal.filter fun e => !e.isRecord

namespace World

variable {as : List Event}

/-- Noting an event adds it to the actions, unless it is a log record. -/
lemma actions_noting (w : World) (e : Event) :
    (w.noting e).actions = w.actions ++ [e].filter fun e => !e.isRecord :=
  List.filter_append ..

/-- A log record is no action. -/
lemma acts_record (level : Level) (message : String) :
    Leads (fun w => w.actions = as) (Net.record level message) fun _ w => w.actions = as :=
  fun w hw => (w.actions_noting _).trans ((List.append_nil _).trans hw)

/-- Noting anything else is one more action. -/
lemma acts_note {e : Event} (he : e.isRecord = false) :
    Leads (fun w => w.actions = as) (Net.note e) fun _ w => w.actions = as ++ [e] := by
  rintro w rfl
  refine (w.actions_noting e).trans ?_
  simp [he]

/-- A system call is one more action. -/
lemma acts_syscall (c : Call) :
    Leads (fun w => w.actions = as) (Net.syscall c) fun r w => w.actions = as ++ [.call c r] := by
  rintro w rfl
  exact w.actions_noting _

/-- A system call that has to succeed is one more action, which says how it ends. -/
lemma acts_require (context : String) (c : Call) :
    Leads (fun w => w.actions = as) (Net.require context c).run fun r w =>
      ∃ outcome, w.actions = as ++ [.call c outcome] ∧
        r = outcome.mapError fun n => .system context (.os n) := by
  refine .run_lift_bind (acts_syscall c) fun r => ?_
  cases r with
  | ok a => exact .run_pure a fun w hw => ⟨.ok a, hw, rfl⟩
  | error n =>
    refine .run_lift_bind (acts_record _ _) fun _ => .run_throw _ fun w hw => ?_
    exact ⟨.error n, hw, rfl⟩

end World

/-! ### Actions that leave the contexts -/

/-- A world is another one after some actions, which left the contexts and what surrounds the
library. -/
structure World.Since (u : World) (es : List Event) (w : World) : Prop where
  actions_eq : w.actions = u.actions ++ es
  context_eq : ∀ scope, w.context scope = u.context scope
  setting_eq : w.toSetting = u.toSetting

namespace World.Since

variable {u : World} {es : List Event} {α ε : Type}

/-- A world is itself after nothing. -/
lemma refl (u : World) : u.Since [] u := ⟨(List.append_nil _).symm, fun _ => rfl, rfl⟩

/-- Some actions after others. -/
lemma trans {v w : World} {later : List Event} (h : u.Since es v) (h' : v.Since later w) :
    u.Since (es ++ later) w :=
  ⟨by rw [h'.actions_eq, h.actions_eq, List.append_assoc],
    fun scope => (h'.context_eq scope).trans (h.context_eq scope),
    h'.setting_eq.trans h.setting_eq⟩

/-- Looking a context up makes no difference. -/
lemma context (scope : Scope) (w : World) : w.Since [] (Net.context scope w).2 := by
  cases scope
  · exact ⟨(List.append_nil _).symm, fun other => by cases other <;> rfl, rfl⟩
  · exact ⟨(List.append_nil _).symm, fun other => by cases other <;> rfl, rfl⟩

/-- A log record is no action. -/
lemma leads_record (level : Level) (message : String) :
    Leads (u.Since es) (Net.record level message) fun _ => u.Since es :=
  fun w hw => ⟨World.acts_record level message w hw.actions_eq,
    fun scope => .trans (by cases scope <;> rfl) (hw.context_eq scope), hw.setting_eq⟩

/-- A system call is one more action. -/
lemma leads_syscall (c : Call) :
    Leads (u.Since es) (Net.syscall c) fun r => u.Since (es ++ [.call c r]) :=
  fun w hw => ⟨(World.acts_syscall c w hw.actions_eq).trans (List.append_assoc ..),
    fun scope => .trans (by cases scope <;> rfl) (hw.context_eq scope), hw.setting_eq⟩

/-- To refuse is no action. -/
lemma leads_refuse (level : Level) (message : String) (e : ε) :
    Leads (u.Since es) (Net.refuse (α := α) level message e).run fun r w =>
      r = .error e ∧ u.Since es w :=
  .run_lift_bind (leads_record _ _) fun _ => .run_throw e fun _ hw => ⟨rfl, hw⟩

/-- A system call that has to succeed is one more action. -/
lemma leads_require (text : String) (c : Call) :
    Leads (u.Since es) (Net.require text c).run fun _ w =>
      ∃ outcome, u.Since (es ++ [.call c outcome]) w := by
  refine .run_lift_bind (leads_syscall c) fun r => ?_
  cases r with
  | ok a => exact .run_pure a fun w hw => ⟨_, hw⟩
  | error n =>
    exact (leads_refuse _ _ _).weaken (fun _ hw => hw) fun _ _ ⟨_, hw⟩ => ⟨_, hw⟩

end World.Since

/-! ## Farewells -/

/-- The option by which the group of a membership is left. -/
def Membership.leaving : Membership → SocketOption
  | v4 group .. => .leave4 group .unspecified
  | v6 group .. => .leave6 group 0

namespace Handle

open World (acts_record acts_note acts_require)

/-- What is done to the group of a handle that is torn down: it is left, if there is one. -/
def groupFarewell (h : Handle) (fd : Descriptor) (left : Except Int Unit) : List Event :=
  (h.membership.map fun m => Event.call (.setsockopt fd m.leaving) left).toList

/-- What is done to the session of a handle that is torn down: it is shut down, if there is one. -/
def sessionFarewell (h : Handle) (fd : Descriptor) : List Event :=
  (h.session.map fun s => Event.tls fd .shutdown (.ofUnit s.takeShutdown.1)).toList

/-- What is done when a handle is torn down. -/
def farewell (h : Handle) (fd : Descriptor) (left closed : Except Int Unit) : List Event :=
  h.groupFarewell fd left ++ h.sessionFarewell fd ++ [.call (.close fd) closed]

variable {as : List Event} {fd : Descriptor} {h : Handle}

/-- Leaving the group of a membership is one action, which leaves the contexts.

**Proof sketch.** There is a record, then the one call for either kind of group, and a warning if
that failed. -/
lemma since_leaveGroup {u : World} {es : List Event} (id : Nat) (m : Membership) :
    Leads (u.Since es) (leaveGroup id fd m) fun _ w =>
      ∃ left, u.Since (es ++ [.call (.setsockopt fd m.leaving) left]) w := by
  have hleave : Leads (u.Since es) (Membership.leave fd (.ofIp m.group 0)).run
      fun _ w => ∃ left, u.Since (es ++ [.call (.setsockopt fd m.leaving) left]) w := by
    unfold Membership.leave
    rw [Address.ip?_ofIp]
    cases m <;> exact World.Since.leads_require _ _
  refine .bind (World.Since.leads_record _ _) fun _ => .bind hleave fun r => ?_
  cases r with
  | ok _ => exact .pure _ fun _ hw => hw
  | error e =>
    refine .of_exists fun left => ?_
    exact (World.Since.leads_record _ _).weaken (fun _ hw => hw) fun _ _ hw => ⟨left, hw⟩

/-- Leaving the group of a membership is one action. -/
lemma acts_leaveGroup (id : Nat) (m : Membership) :
    Leads (fun w => w.actions = as) (leaveGroup id fd m) fun _ w =>
      ∃ left, w.actions = as ++ [.call (.setsockopt fd m.leaving) left] := by
  rintro w rfl
  obtain ⟨left, hw⟩ := since_leaveGroup id m w (.refl w)
  exact ⟨left, hw.actions_eq⟩

/-- Parting with the group of a well-formed handle.

**Proof sketch.** By whether there is a membership, which is what the flags tell too. Without one
nothing is done. -/
lemma acts_partGroup (hj : h.flags.joined = true ↔ h.membership.isSome = true) :
    Leads (fun w => w.actions = as) (h.partGroup fd) fun i w =>
      i = { h with membership := none } ∧ ∃ left, w.actions = as ++ h.groupFarewell fd left := by
  unfold partGroup
  cases hm : h.membership with
  | none =>
    have heq : { h with membership := none } = h := by rw [← hm]
    rw [if_neg (by simp [hj, hm])]
    exact .pure h fun w hw => ⟨heq.symm, .ok (), by simpa [groupFarewell, hm] using hw⟩
  | some m =>
    rw [if_pos (hj.2 (by simp [hm]))]
    refine .bind (acts_leaveGroup h.id m) fun _ => .pure _ fun w ⟨left, hw⟩ => ⟨rfl, left, ?_⟩
    simpa [groupFarewell, hm] using hw

/-- Shutting a session down is one action. -/
lemma acts_shutSession (id : Nat) (s : Tls.Session) :
    Leads (fun w => w.actions = as) (shutSession id fd s) fun _ w =>
      w.actions = as ++ [.tls fd .shutdown (.ofUnit s.takeShutdown.1)] := by
  refine .bind (acts_record _ _) fun _ => .bind
    (R := fun _ w => w.actions = as ++ [.tls fd .shutdown (.ofUnit s.takeShutdown.1)])
    (acts_note rfl) fun _ => ?_
  split
  · exact .pure _ fun _ hw => hw
  · exact acts_record _ _

/-- Parting with the session of a well-formed handle.

**Proof sketch.** By whether there is a session, without which nothing is done. With one the flags
say so too, and it is shut down. -/
lemma acts_partSession (he : h.session.isSome = true → h.flags.tls.enabled = true) :
    Leads (fun w => w.actions = as) (h.partSession fd) fun i w =>
      i = { h with session := none } ∧ w.actions = as ++ h.sessionFarewell fd := by
  unfold partSession
  cases hs : h.session with
  | none =>
    have heq : { h with session := none } = h := by rw [← hs]
    have hnone : h.sessionFarewell fd = [] := by simp [sessionFarewell, hs]
    rw [hnone, List.append_nil]
    split <;> exact .pure h fun w hw => ⟨heq.symm, hw⟩
  | some s =>
    rw [if_pos (he (by simp [hs]))]
    refine .bind (acts_shutSession h.id s) fun _ => .pure _ fun w hw => ⟨rfl, ?_⟩
    simpa [sessionFarewell, hs] using hw

/-- Tearing down a well-formed handle bids it farewell and leaves it without a descriptor.

**Proof sketch.** The descriptor is taken from the handle first. Then come the group
(`acts_partGroup`), the session (`acts_partSession`) and the descriptor, in this order, whether or
not they fail. -/
lemma acts_teardown (hfd : h.descriptor = some fd) (hwf : h.WellFormed) :
    Leads (fun w => w.actions = as) h.teardown fun p w => p.2.descriptor = none ∧
      ∃ left closed, w.actions = as ++ h.farewell fd left closed ∧
        p.1 = closed.mapError fun n => .system "close" (.os n) := by
  unfold teardown
  rw [hfd]
  refine .bind (acts_partGroup (h := { h with descriptor := none }) hwf.joined_iff)
    fun i => .of_and ?_
  rintro rfl
  refine .of_exists fun left => ?_
  refine .bind (acts_partSession hwf.enabled_of_session) fun i => .of_and ?_
  rintro rfl
  refine .bind (.bind (acts_record _ _) fun _ => acts_require "close" (.close fd)) fun status => ?_
  refine .pure _ fun w ⟨closed, hw, hstatus⟩ => ⟨rfl, left, closed, hw.trans ?_, hstatus⟩
  simp only [farewell, groupFarewell, sessionFarewell, List.append_assoc]

/-- Closing tears down: what is left of the handle has nothing to be dropped. -/
lemma close_eq_teardown {w : World} (h' : (h.teardown w).1.2.descriptor = none) :
    h.close w = ((h.teardown w).1.1, (h.teardown w).2) := by
  show ((h.teardown w).1.1, ((h.teardown w).1.2.drop (h.teardown w).2).2) = _
  rw [drop_of_closed h']

/-- Dropping tears down, and records that closing failed. -/
lemma drop_eq_teardown (hfd : h.descriptor = some fd) (w : World) :
    (h.drop w).2 = match (h.teardown w).1.1 with
      | .ok _ => (h.teardown w).2
      | .error e => (Net.record .warn (h.name ++ ": close on drop: " ++ e.message)
        (h.teardown w).2).2 := by
  have hdrop : Leads (fun v => v = w) h.drop fun _ v => v = match (h.teardown w).1.1 with
      | .ok _ => (h.teardown w).2
      | .error e => (Net.record .warn (h.name ++ ": close on drop: " ++ e.message)
        (h.teardown w).2).2 := by
    unfold drop
    rw [hfd]
    refine .bind (R := fun p v => (p, v) = h.teardown w) (by rintro _ rfl; rfl) fun p v hp => ?_
    obtain ⟨status, rest⟩ := p
    rw [← hp]
    cases status <;> rfl
  exact hdrop w rfl

/-- **A handle is torn down in order** from a world, where leaving its group ends in one way and
closing its descriptor in another: closing it does the steps that there are, each once and in order,
and ends as closing the descriptor does; dropping it does the same, and records it if closing the
descriptor failed; and what is left of the handle when it was closed has nothing to be dropped. -/
structure TornDown (h : Handle) (fd : Descriptor) (left closed : Except Int Unit) (w : World) :
    Prop where
  descriptor_eq : h.descriptor = some fd
  actions_eq : (h.close w).2.actions = w.actions ++ h.farewell fd left closed
  status_eq : (h.close w).1 = closed.mapError fun n => .system "close" (.os n)
  drop_eq : (h.drop w).2 = match (h.close w).1 with
    | .ok _ => (h.close w).2
    | .error e => (Net.record .warn (h.name ++ ": close on drop: " ++ e.message) (h.close w).2).2
  spent : (h.teardown w).1.2.drop (h.close w).2 = ((), (h.close w).2)

/-- A well-formed handle is torn down in order. -/
theorem WellFormed.tornDown (hwf : h.WellFormed) (hfd : h.descriptor = some fd) (w : World) :
    ∃ left closed, h.TornDown fd left closed w := by
  obtain ⟨hgone, left, closed, hactions, hstatus⟩ := acts_teardown hfd hwf w rfl
  have hclose := close_eq_teardown hgone
  refine ⟨left, closed, hfd, ?_, ?_, ?_, drop_of_closed hgone _⟩
  · rw [hclose]
    exact hactions
  · rw [hclose]
    exact hstatus
  · rw [hclose]
    exact drop_eq_teardown hfd w

end Handle

namespace Run

/-- **Tearing down.** After every step of every run, whatever failed in it, every handle that is
alive would be torn down in order, whatever the world that this happens in answers.

**Proof sketch.** Every handle of a sane run owns a descriptor and is well-formed, and such a handle
is torn down in order in any world (`WellFormed.tornDown`). -/
theorem tornDown_steps (w : World) (ss : List Step) (p : String × Handle)
    (hp : p ∈ ((start w).steps ss).table) (v : World) :
    ∃ fd left closed, p.2.TornDown fd left closed v := by
  have hsane : ((start w).steps ss).Sane True := (sane_start w).steps ss fun _ _ _ => trivial
  obtain ⟨H, -, hA⟩ := hsane
  obtain ⟨fd, hfd, hwf, -⟩ := hA.held p hp
  exact ⟨fd, hwf.tornDown hfd v⟩

/-- A handle in a group is torn down in order where both leaving the group and closing the
descriptor fail. -/
theorem tornDown_joined :
    ∃ r : Run, ∃ _ : 0 < r.table.length, ∃ v : World,
      ((r.table[0]).2.membership.isSome = true ∧ ((r.table[0]).2.close v).1.isOk = false) ∧
        ∃ fd left closed, (r.table[0]).2.TornDown fd left closed v :=
  ⟨(start {}).steps [.bind "u" .own (some "127.0.0.1") "5000" .udp {},
    .joinGroup "u" (.inet ⟨239, 1, 2, 3⟩ 5000) .any], by decide +kernel,
    { kernel := {
        faults := Kernel.moreFaults (fun _ => []) [(.setsockopt, [22]), (.close, [5])] } },
    by decide +kernel, tornDown_steps {} _ _ (List.getElem_mem _) _⟩

end Run

end Sockets
