import Mathlib.Data.List.Forall2
import Sockets.Proofs.Heedless
import Sockets.Proofs.NewHandles
import Sockets.Run.Step

/-!
# Handles that look alike

Two handles that are the same apart from what they remember of the ends of their connection, each
rightly, cannot be told apart by what the library does with them. This module goes through all that
can be done with handles: asking, transferring data, tearing down, opening, and the steps of a run.
A step makes no other difference to the handles that look alike than that they look alike after it.

## Main definitions

* `Sockets.Handle.tellNow`, `Sockets.Handle.infoNow` — the answers, worked out from the addresses.
* `Sockets.Table.Alike`, `Sockets.Run.Alike` — the same names, with handles that look alike.

## Main results

* `Sockets.Handle.tell_eq`, `Sockets.Handle.info_eq` — a handle that remembers rightly answers
  from its addresses.
* `Sockets.Run.Alike.step` — a step on runs that look alike.
-/

set_option autoImplicit false

namespace Sockets

/-- An end that forgets its host text is faithful. -/
lemma Endpoint.Faithful.forgetHost {e : Endpoint} (he : e.Faithful) : e.forgetHost.Faithful :=
  ⟨fun _ htext => (nomatch htext), he.2⟩

/-! ## Asking -/

namespace Handle

variable {g h : Handle}

/-- The answer to a question about an end, worked out from the address that the end has now. -/
def tellNow (h : Handle) : Question → Answer
  | .nearHost => .host (h.near.address.bind Address.host?)
  | .nearPort => .port (h.near.address.bind Address.port?)
  | .farHost => .host (h.far.address.bind Address.host?)
  | .farPort => .port (h.far.address.bind Address.port?)

/-- A handle that remembers rightly answers from its addresses. -/
theorem tell_eq (hh : h.Faithful) (q : Question) : (h.tell q).1 = h.tellNow q := by
  cases q with
  | nearHost => exact congrArg Answer.host (Endpoint.host_eq hh.1)
  | nearPort => exact congrArg Answer.port (Endpoint.port_eq hh.1)
  | farHost => exact congrArg Answer.host (Endpoint.host_eq hh.2)
  | farPort => exact congrArg Answer.port (Endpoint.port_eq hh.2)

/-- Answering keeps what a handle remembers right. -/
lemma Faithful.tell (hh : h.Faithful) (q : Question) : (h.tell q).2.Faithful := by
  cases q with
  | nearHost => exact ⟨Endpoint.faithful_host hh.1, hh.2⟩
  | nearPort => exact ⟨Endpoint.faithful_port hh.1, hh.2⟩
  | farHost => exact ⟨hh.1, Endpoint.faithful_host hh.2⟩
  | farPort => exact ⟨hh.1, Endpoint.faithful_port hh.2⟩

/-- Answering changes nothing but what a handle remembers. -/
@[simp] lemma bare_tell (h : Handle) (q : Question) : (h.tell q).2.bare = h.bare := by
  cases q <;> simp [tell, bare]

/-- Handles that look alike give the same answer, and look alike after it. -/
lemma Alike.tell (hgh : g.Alike h) (q : Question) :
    (g.tell q).1 = (h.tell q).1 ∧ (g.tell q).2.Alike (h.tell q).2 := by
  refine ⟨?_, by simpa using hgh.bare_eq, hgh.left.tell q, hgh.right.tell q⟩
  rw [tell_eq hgh.left, tell_eq hgh.right]
  exact hgh.congr (fun i => i.tellNow q) fun _ => by cases q <;> rfl

/-- The answers to everything that can be asked of a handle, worked out from its addresses. -/
def infoNow (h : Handle) : Info :=
  ⟨h.id, h.protocol, h.flags, h.number, h.descriptor.isSome, h.family?, h.near.address,
    h.near.address.bind Address.host?, h.near.address.bind Address.port?, h.far.address,
    h.far.address.bind Address.host?, h.far.address.bind Address.port?, h.membership⟩

/-- The answers about the ends are what their addresses give. -/
def Info.Rendered (i : Info) : Prop :=
  i.nearHost = i.near.bind Address.host? ∧ i.nearPort = i.near.bind Address.port? ∧
    i.farHost = i.far.bind Address.host? ∧ i.farPort = i.far.bind Address.port?

/-- A handle that has told everything has answered the four questions about its ends. -/
lemma info_snd (h : Handle) :
    h.info.2 = ((((h.tell .nearHost).2.tell .nearPort).2.tell .farHost).2.tell .farPort).2 := rfl

/-- A handle that remembers rightly tells everything from its addresses.

**Proof sketch.** The four questions are asked one after the other, each of a handle that still
remembers rightly, and each is answered from the addresses, which no question changes. -/
theorem info_eq (hh : h.Faithful) : h.info.1 = h.infoNow := by
  have h₁ := hh.tell .nearHost
  have h₂ := h₁.tell .nearPort
  have h₃ := h₂.tell .farHost
  have hnearHost := Answer.host.inj (tell_eq hh .nearHost)
  have hnearPort := Answer.port.inj (tell_eq h₁ .nearPort)
  have hfarHost := Answer.host.inj (tell_eq h₂ .farHost)
  have hfarPort := Answer.port.inj (tell_eq h₃ .farPort)
  simp only [tell, Endpoint.address_host] at hnearPort hfarHost hfarPort
  unfold infoNow
  rw [← hnearHost, ← hnearPort, ← hfarHost, ← hfarPort]
  rfl

/-- Handles that look alike tell the same, and look alike after it. -/
lemma Alike.info (hgh : g.Alike h) :
    g.info.1 = h.info.1 ∧ g.info.1.Rendered ∧ g.info.2.Alike h.info.2 := by
  refine ⟨?_, ?_, ?_⟩
  · rw [info_eq hgh.left, info_eq hgh.right]
    exact hgh.congr infoNow fun _ => rfl
  · rw [info_eq hgh.left]
    exact ⟨rfl, rfl, rfl, rfl⟩
  · rw [info_snd, info_snd]
    exact ((((hgh.tell _).2.tell _).2.tell _).2.tell _).2

end Handle

/-! ## Transferring data -/

/-- Two transfers ended in the same way, and left handles that look alike. -/
structure Transfer.Alike {α : Type} (t u : Transfer α) : Prop where
  result : t.result = u.result
  side : t.side = u.side
  handle : t.handle.Alike u.handle

/-- A system call in the same world, and what follows when it succeeds and when it fails. -/
lemma Net.Alike.syscall_bind {α β : Type} {R : α → β → Prop} (c : Call)
    {f : Except Int c.Answer → Net α} {k : Except Int c.Answer → Net β}
    (hok : ∀ answer, Net.Alike Eq R (f (.ok answer)) (k (.ok answer)))
    (herror : ∀ n, Net.Alike Eq R (f (.error n)) (k (.error n))) :
    Net.Alike Eq R (Net.syscall c >>= f) (Net.syscall c >>= k) := by
  refine .bind_same (.self _) fun r => ?_
  cases r with
  | ok answer => exact hok answer
  | error n => exact herror n

namespace Handle

variable {g h : Handle} {α : Type}

section Transfers

variable (hgh : g.Alike h) (fd : Descriptor) (s : Tls.Session) (buffer data : Bytes)
  (length : Nat) (side : Option SideData) (flags : MessageFlags)
include hgh

/-- A transfer that is refused. -/
lemma alike_refused (operation : String) :
    (g.refused (α := α) side operation).Alike (h.refused side operation) :=
  ⟨hgh.congr (fun i => (i.refused (α := α) side operation).result) fun _ => rfl, rfl, hgh⟩

/-- A transfer whose system call failed. -/
lemma alike_transferFailed (name : String) (n : Int) :
    Net.Alike Eq Transfer.Alike (g.transferFailed (α := α) side name n)
      (h.transferFailed side name n) := by
  have hname := hgh.congr Handle.name fun _ => rfl
  unfold transferFailed
  rw [hname]
  exact .bind_same (.self _) fun _ => .pure ⟨rfl, rfl, hgh⟩

/-- A transfer that succeeded. -/
lemma alike_transferred (a : α) (what : String) :
    Net.Alike Eq Transfer.Alike (g.transferred side a what) (h.transferred side a what) := by
  have hname := hgh.congr Handle.name fun _ => rfl
  unfold transferred
  rw [hname]
  exact .bind_same (.self _) fun _ => .pure ⟨rfl, rfl, hgh⟩

/-- Handles stay alike when both get the same session. -/
lemma Alike.withSession : Alike { g with session := some s } { h with session := some s } :=
  hgh.change (f := fun i => { i with session := some s }) (fun _ => rfl) fun _ hi => hi

/-- Reading through a session. -/
lemma alike_readSession :
    Net.Alike Eq Transfer.Alike (g.readSession fd s buffer side)
      (h.readSession fd s buffer side) := by
  have hname := hgh.congr Handle.name fun _ => rfl
  have hgh' := hgh.withSession (s.takeRead buffer.length).2
  refine .bind_same (.self _) fun _ => ?_
  split
  · exact alike_transferred hgh' _ _ _
  · refine .bind_same ?_ fun _ => .pure ⟨rfl, rfl, hgh'⟩
    exact hname ▸ .self _

/-- Reading without encryption.

**Proof sketch.** The protocol is the same in both handles and decides on the call, which is the
same too. What comes of it is put in the same place (`alike_transferred`). -/
lemma alike_readPlain :
    Net.Alike Eq Transfer.Alike (g.readPlain fd buffer side flags)
      (h.readPlain fd buffer side flags) := by
  have hstream : Net.Alike Eq Transfer.Alike (g.readStream fd buffer side flags)
      (h.readStream fd buffer side flags) :=
    .syscall_bind (.recv fd buffer.length flags) (fun _ => alike_transferred hgh _ _ _)
      fun _ => alike_transferFailed hgh _ _ _
  unfold readPlain
  rw [← hgh.congr Handle.protocol fun _ => rfl]
  split
  · split
    · exact .syscall_bind (.recvfrom fd buffer.length flags) (fun _ => alike_transferred hgh _ _ _)
        fun _ => alike_transferFailed hgh _ _ _
    · exact .pure (alike_refused hgh _ _)
  · exact hstream
  · exact hstream
  · exact hstream
  · refine .bind_same (.self _) fun w => ?_
    split
    · exact .syscall_bind (.recvmsg fd buffer.length flags) (fun _ => alike_transferred hgh _ _ _)
        fun _ => alike_transferFailed hgh _ _ _
    · exact .pure (alike_refused hgh _ _)

/-- Reading. -/
theorem alike_read :
    Net.Alike Eq Transfer.Alike (g.read buffer side flags) (h.read buffer side flags) := by
  unfold read
  rw [← hgh.congr Handle.flags fun _ => rfl, ← hgh.congr Handle.descriptor fun _ => rfl,
    ← hgh.congr Handle.session fun _ => rfl]
  split
  · split
    · exact alike_readSession hgh _ _ _ _
    · exact .pure (alike_refused hgh _ _)
  · split
    · exact alike_readPlain hgh _ _ _ _
    · exact .pure ⟨rfl, rfl, hgh⟩

/-- Reading into a new buffer. -/
theorem alike_readVec :
    Net.Alike Eq Transfer.Alike (g.readVec length side flags) (h.readVec length side flags) := by
  have hname := hgh.congr Handle.name fun _ => rfl
  refine .bind_same (.self _) fun w => ?_
  split
  · exact .bind (alike_read hgh _ _ _) fun a b hab =>
      .pure ⟨congrArg (Except.map Reading.octets) hab.result, hab.side, hab.handle⟩
  · rw [hname]
    exact .bind_same (.self _) fun _ => .pure ⟨rfl, rfl, hgh⟩

/-- Writing through a session. -/
lemma alike_writeSession :
    Net.Alike Eq Transfer.Alike (g.writeSession fd s data side)
      (h.writeSession fd s data side) := by
  have hname := hgh.congr Handle.name fun _ => rfl
  have hgh' := hgh.withSession (s.takeWrite data).2
  refine .bind_same (.self _) fun _ => ?_
  split
  · exact alike_transferred hgh' _ _ _
  · refine .bind_same ?_ fun _ => .pure ⟨rfl, rfl, hgh'⟩
    exact hname ▸ .self _

/-- Writing without encryption.

**Proof sketch.** The protocol is the same in both handles, and so is the destination of a datagram.
With these the call is the same. -/
lemma alike_writePlain :
    Net.Alike Eq Transfer.Alike (g.writePlain fd data side flags)
      (h.writePlain fd data side flags) := by
  have hstream : Net.Alike Eq Transfer.Alike (g.writeStream fd data side flags)
      (h.writeStream fd data side flags) :=
    .syscall_bind (.send fd data flags) (fun _ => alike_transferred hgh _ _ _)
      fun _ => alike_transferFailed hgh _ _ _
  unfold writePlain
  rw [← hgh.congr Handle.protocol fun _ => rfl]
  split
  · unfold writeDatagram
    rw [← hgh.congr (fun i => i.destination? side) fun _ => rfl]
    split
    · exact .pure (alike_refused hgh _ _)
    · exact .syscall_bind (.sendto fd data flags _) (fun _ => alike_transferred hgh _ _ _)
        fun _ => alike_transferFailed hgh _ _ _
  · exact hstream
  · exact hstream
  · exact hstream
  · refine .bind_same (.self _) fun w => ?_
    split
    · exact .syscall_bind (.sendmsg fd data flags _) (fun _ => alike_transferred hgh _ _ _)
        fun _ => alike_transferFailed hgh _ _ _
    · exact .pure (alike_refused hgh _ _)

/-- Writing. -/
theorem alike_write :
    Net.Alike Eq Transfer.Alike (g.write data side flags) (h.write data side flags) := by
  unfold write
  rw [← hgh.congr Handle.flags fun _ => rfl, ← hgh.congr Handle.descriptor fun _ => rfl,
    ← hgh.congr Handle.session fun _ => rfl]
  split
  · split
    · exact alike_writeSession hgh _ _ _ _
    · exact .pure (alike_refused hgh _ _)
  · split
    · exact alike_writePlain hgh _ _ _ _
    · exact .pure ⟨rfl, rfl, hgh⟩

end Transfers

/-! ## Tearing down -/

/-- Leaving the group. -/
lemma alike_partGroup (hgh : g.Alike h) (fd : Descriptor) :
    Net.Alike Eq Alike (partGroup fd g) (partGroup fd h) := by
  have hparted := hgh.change (f := fun i => { i with membership := none }) (fun _ => rfl)
    fun _ hi => hi
  unfold partGroup
  simp only [← hgh.congr Handle.flags fun _ => rfl, ← hgh.congr Handle.membership fun _ => rfl,
    ← hgh.congr Handle.id fun _ => rfl] at hparted ⊢
  split
  · split
    · exact .bind_same (.self _) fun _ => .pure hparted
    · exact .pure hgh
  · exact .pure hgh

/-- Shutting the session down. -/
lemma alike_partSession (hgh : g.Alike h) (fd : Descriptor) :
    Net.Alike Eq Alike (partSession fd g) (partSession fd h) := by
  have hparted := hgh.change (f := fun i => { i with session := none }) (fun _ => rfl)
    fun _ hi => hi
  unfold partSession
  simp only [← hgh.congr Handle.flags fun _ => rfl, ← hgh.congr Handle.session fun _ => rfl,
    ← hgh.congr Handle.id fun _ => rfl] at hparted ⊢
  split
  · split
    · exact .bind_same (.self _) fun _ => .pure hparted
    · exact .pure hgh
  · exact .pure hgh

/-- Tearing down.

**Proof sketch.** The descriptor is the same, and so are the group and the session, so that each
piece of the farewell goes alike. In the end both forget the hosts of their ends. -/
lemma alike_teardown (hgh : g.Alike h) :
    Net.Alike Eq (fun p q => p.1 = q.1 ∧ p.2.Alike q.2) g.teardown h.teardown := by
  unfold teardown
  rw [← hgh.congr Handle.descriptor fun _ => rfl]
  split
  · exact .pure ⟨rfl, hgh⟩
  · rename_i fd _
    have hopen := hgh.change (f := fun i => { i with descriptor := none }) (fun _ => rfl)
      fun _ hi => hi
    refine .bind (alike_partGroup hopen _) fun i j hij => ?_
    refine .bind (alike_partSession hij _) fun i j hij => ?_
    rw [← hij.congr (closeDescriptor fd) fun _ => rfl]
    refine .bind_same (.self _) fun _ => .pure ⟨rfl, ?_⟩
    exact hij.change (f := fun i => { i with near := i.near.forgetHost, far := i.far.forgetHost })
      (fun _ => rfl) fun i hi => ⟨hi.1.forgetHost, hi.2.forgetHost⟩

/-- Dropping. -/
lemma alike_drop (hgh : g.Alike h) : Net.Alike Eq Eq g.drop h.drop := by
  unfold drop
  rw [← hgh.congr Handle.descriptor fun _ => rfl, ← hgh.congr Handle.name fun _ => rfl]
  split
  · exact .pure rfl
  · refine .bind (alike_teardown hgh) ?_
    rintro ⟨r, i⟩ ⟨_, j⟩ ⟨rfl, -⟩
    cases r with
    | ok _ => exact .pure rfl
    | error e => exact .self _

/-- Closing. -/
lemma alike_close (hgh : g.Alike h) : Net.Alike Eq Eq g.close h.close := by
  refine .bind (alike_teardown hgh) ?_
  rintro ⟨r, i⟩ ⟨_, j⟩ ⟨rfl, hij⟩
  exact .bind_same (alike_drop hij) fun _ => .pure rfl

end Handle

/-! ## Groups and destinations -/

namespace Handle

/-- Joining a group. -/
lemma alike_joinGroup (group : Address) (interface : Interface) :
    Act.Alike Eq (joinGroup group interface) (joinGroup group interface) := by
  refine .get_bind (fun _ => rfl) fun h => ?_
  dsimp only
  split
  · exact .throw_bind _ _ _
  split
  · exact .throw_bind _ _ _
  · exact .bind .owned fun fd => .bind (.ofAttempt (.self _)) fun m =>
      alike_recordMembership Net.steady_eq m

/-- Setting where datagrams go. -/
lemma alike_setDestination (a : Address) :
    Act.Alike Eq (setDestination a) (setDestination a) := by
  refine .get_bind (fun _ => rfl) fun h => ?_
  dsimp only
  split
  · exact .throw_bind _ _ _
  split
  · exact .throw_bind _ _ _
  · exact .bind (alike_record Net.steady_eq _ _) fun _ => alike_setFar a

end Handle

/-! ## Opening -/

/-- Two operations failed in the same way, or gave results that are related. -/
inductive Ends {α β : Type} (R : α → β → Prop) : Except Error α → Except Error β → Prop
  | ok {a : α} {b : β} (h : R a b) : Ends R (.ok a) (.ok b)
  | error (e : Error) : Ends R (.error e) (.error e)

/-- One operation after another, with related results. -/
lemma Net.Alike.run_bind_ends {α β γ δ : Type} {R : α → β → Prop} {S : γ → δ → Prop}
    {I : World → World → Prop} {x : Attempt Error α} {y : Attempt Error β}
    {f : α → Attempt Error γ} {k : β → Attempt Error δ} (hx : Alike I (Ends R) x.run y.run)
    (hf : ∀ a b, R a b → Alike I (Ends S) (f a).run (k b).run) :
    Alike I (Ends S) (x >>= f).run (y >>= k).run := by
  refine Alike.bind (x := x.run) (y := y.run) (f := fun r => (ExceptT.bindCont f r : Net _))
    (g := fun r => (ExceptT.bindCont k r : Net _)) hx fun r s hrs => ?_
  cases hrs with
  | ok h => exact hf _ _ h
  | error e => exact .pure (.error e)

namespace Handle

variable {g h : Handle}

/-- An operation on handles that look alike, which are dropped if it fails. -/
lemma alike_settle {α : Type} (hgh : g.Alike h) {x y : Act α} (hxy : Act.Alike Eq x y) :
    Net.Alike Eq (Ends fun p q => p.1 = q.1 ∧ p.2.Alike q.2) (g.settle x).run
      (h.settle y).run := by
  refine .run_lift_bind_of (hxy g h hgh) ?_
  rintro ⟨r, i⟩ ⟨_, j⟩ ⟨rfl, hij⟩
  cases r with
  | ok a => exact .pure (.ok ⟨rfl, hij⟩)
  | error e => exact .run_lift_bind (alike_drop hij) fun _ => .pure (.error e)

/-- A new handle remembers nothing. -/
lemma alike_create (fd : Descriptor) (p : Protocol) (flags : Flags)
    (session : Option Tls.Session) :
    Net.Alike Eq Alike (create fd p flags session) (create fd p flags session) := by
  rintro w _ rfl
  refine ⟨Faithful.alike ⟨?_, ?_⟩, rfl⟩ <;> exact ⟨fun _ h => (nomatch h), fun _ h => (nomatch h)⟩

end Handle

namespace Net

open Handle (alike_settle alike_create alike_refreshNear alike_refreshFar alike_setFar
  alike_joinPeer)

variable {g h : Handle}

/-- Connecting.

**Proof sketch.** The descriptor and the session are the same, and the new handles look alike when
they are made and when they have learned their ends. -/
theorem alike_connect (scope : Scope) (host service : String) (p : Protocol) (flags : Flags) :
    Alike Eq (Ends Handle.Alike) (connect scope host service p flags).run
      (connect scope host service p flags).run := by
  refine .run_bind (.self _) (fun fd => ?_) .error
  refine .run_bind (.self _) (fun session => ?_) .error
  refine .run_lift_bind_of (alike_create _ _ _ _) fun i j hij => ?_
  refine .run_bind_ends (alike_settle hij ?_) ?_
  · exact .bind (alike_refreshNear steady_eq) fun _ => .bind (alike_refreshFar steady_eq) fun _ =>
      alike_joinPeer steady_eq
  · rintro ⟨_, i⟩ ⟨_, j⟩ ⟨-, hij⟩
    dsimp only at hij ⊢
    rw [hij.congr Handle.name fun _ => rfl]
    exact .run_lift_bind (.self _) fun _ => .pure (.ok hij)

/-- Binding.

**Proof sketch.** The descriptor is the same, and the new handles look alike when they are made and
when they have learned their near end. What the record tells is the near host, which is the same
text in both. -/
theorem alike_bind (scope : Scope) (host : Option String) (service : String) (p : Protocol)
    (flags : Flags) :
    Alike Eq (Ends Handle.Alike) (bind scope host service p flags).run
      (bind scope host service p flags).run := by
  refine .run_bind (.self _) (fun fd => ?_) .error
  refine .run_lift_bind_of (alike_create _ _ _ _) fun i j hij => ?_
  refine .run_bind_ends (alike_settle hij (alike_refreshNear steady_eq)) ?_
  rintro ⟨_, i⟩ ⟨_, j⟩ ⟨-, hij⟩
  obtain ⟨htext, hij'⟩ := hij.tell .nearHost
  dsimp only [Handle.tell] at hij htext hij' ⊢
  rw [hij.congr Handle.name fun _ => rfl]
  generalize i.near.host = out at htext hij' ⊢
  generalize j.near.host = out' at htext hij' ⊢
  obtain ⟨text, near⟩ := out
  obtain ⟨_, near'⟩ := out'
  obtain rfl := Handle.Answer.host.inj htext
  exact .run_lift_bind (.self _) fun _ => .pure (.ok hij')

/-- Accepting.

**Proof sketch.** The listeners have the same descriptor, flags and protocol, so the calls are the
same and so is the session. The new handles look alike when they are made, and stay so; what the
record tells is the far host, which is the same text in both. -/
theorem alike_accept (hgh : g.Alike h) (scope : Scope) :
    Alike Eq (Ends Handle.Alike) (accept scope g).run (accept scope h).run := by
  unfold accept
  rw [hgh.congr Handle.descriptor fun _ => rfl, hgh.congr Handle.flags fun _ => rfl,
    hgh.congr Handle.name fun _ => rfl, hgh.congr Handle.protocol fun _ => rfl]
  split
  · exact .pure (.error _)
  · refine .run_bind (.self _) ?_ .error
    rintro ⟨fd, peer⟩
    refine .run_bind (.self _) (fun session => ?_) .error
    refine .run_lift_bind_of (alike_create _ _ _ _) fun i j hij => ?_
    refine .run_bind_ends (alike_settle hij ?_) ?_
    · exact .bind (alike_setFar peer) fun _ => alike_refreshNear steady_eq
    · rintro ⟨_, i⟩ ⟨_, j⟩ ⟨-, hij⟩
      obtain ⟨htext, hij'⟩ := hij.tell .farHost
      dsimp only [Handle.tell] at hij htext hij' ⊢
      rw [hij.congr Handle.name fun _ => rfl]
      generalize i.far.host = out at htext hij' ⊢
      generalize j.far.host = out' at htext hij' ⊢
      obtain ⟨text, far⟩ := out
      obtain ⟨_, far'⟩ := out'
      obtain rfl := Handle.Answer.host.inj htext
      exact .run_lift_bind (.self _) fun _ => .pure (.ok hij')

/-- Two connected handles. -/
theorem alike_socketpair :
    Alike Eq (Ends fun p q => p.1.Alike q.1 ∧ p.2.Alike q.2) socketpair.run socketpair.run := by
  refine .run_bind (.self _) ?_ .error
  rintro ⟨a, b⟩
  refine .run_lift_bind_of (alike_create _ _ _ _) fun a a' ha => ?_
  refine .run_lift_bind_of (alike_create _ _ _ _) fun b b' hb => ?_
  rw [ha.congr Handle.name fun _ => rfl, hb.congr Handle.name fun _ => rfl]
  exact .run_lift_bind (.self _) fun _ => .pure (.ok ⟨ha, hb⟩)

end Net

namespace Builder

open Net (steady_eq)

variable (b : Builder)

/-- A connected handle. -/
lemma alike_connect (host service : String) :
    Net.Alike Eq (Ends Handle.Alike) (b.connect host service).run (b.connect host service).run :=
  .run_lift_bind (.self _) fun _ => Net.alike_connect _ _ _ _ _

/-- Joining the group that was asked for. -/
lemma alike_joinChosen (c : GroupChoice) :
    Handle.Act.Alike Eq (b.joinChosen c) (b.joinChosen c) := by
  unfold joinChosen
  split
  · exact .throw _
  · exact .bind (Handle.alike_joinGroup _ _) fun _ => .ofNet (.self _)

/-- A bound handle. -/
lemma alike_bind (host : Option String) (service : String) :
    Net.Alike Eq (Ends Handle.Alike) (b.bind host service).run (b.bind host service).run := by
  refine .run_lift_bind (.self _) fun _ => ?_
  refine .run_bind_ends (Net.alike_bind _ _ _ _ _) fun i j hij => ?_
  split
  · exact .pure (.ok hij)
  · refine .run_bind_ends (Handle.alike_settle hij (b.alike_joinChosen _)) ?_
    rintro ⟨_, i⟩ ⟨_, j⟩ ⟨-, hij⟩
    exact .pure (.ok hij)

/-- A bound handle that waits for connections. -/
lemma alike_listen (host service : String) :
    Net.Alike Eq (Ends Handle.Alike) (b.listen host service).run (b.listen host service).run := by
  refine .run_bind_ends (b.alike_bind _ _) fun i j hij => ?_
  have hlisten : Net.listen b.scope i = Net.listen b.scope j :=
    hij.congr (Net.listen b.scope) fun _ => rfl
  rw [hlisten]
  refine .run_bind_ends (Handle.alike_settle hij (.ofAttempt (.self _))) ?_
  rintro ⟨_, i⟩ ⟨_, j⟩ ⟨-, hij⟩
  exact .pure (.ok hij)

end Builder

/-! ## Tables and runs -/

/-- Two tables have the same names, with handles that look alike. -/
def Table.Alike (t u : Table) : Prop := List.Forall₂ (fun p q => p.1 = q.1 ∧ p.2.Alike q.2) t u

namespace Table.Alike

variable {t u : Table} {g h : Handle}

/-- The handles of a name look alike. -/
lemma get? (htu : t.Alike u) (name : String) :
    Option.Rel Handle.Alike (t.get? name) (u.get? name) := by
  induction htu with
  | nil => exact .none
  | @cons p q t u hpq _ ih =>
    obtain ⟨n, g⟩ := p
    obtain ⟨_, h⟩ := q
    obtain ⟨rfl, hgh⟩ := hpq
    unfold Table.get?
    split
    · exact .some hgh
    · exact ih

/-- Tables look alike after handles that do were stored under one name. -/
lemma insert (htu : t.Alike u) (name : String) (hgh : g.Alike h) :
    Table.Alike (t.insert name g) (u.insert name h) := by
  induction htu with
  | nil => exact .cons ⟨rfl, hgh⟩ .nil
  | @cons p q t u hpq htu ih =>
    obtain ⟨n, g'⟩ := p
    obtain ⟨_, h'⟩ := q
    obtain ⟨rfl, hgh'⟩ := hpq
    unfold Table.insert
    split
    · exact .cons ⟨rfl, hgh⟩ htu
    split
    · exact .cons ⟨rfl, hgh⟩ (.cons ⟨rfl, hgh'⟩ htu)
    · exact .cons ⟨rfl, hgh'⟩ ih

/-- Tables look alike after the handles of one name were taken out. -/
lemma erase (htu : t.Alike u) (name : String) : Table.Alike (t.erase name) (u.erase name) :=
  List.rel_filter (fun _ _ hpq => by simp [hpq.1]) htu

end Table.Alike

/-- What a reply tells about the ends of connections is what their addresses give. -/
def Reply.Rendered : Reply → Prop
  | .info i => i.Rendered
  | _ => True

namespace Run

variable {t u : Table} {g h : Handle}

/-- Two steps have the same reply, which tells what addresses give, and leave tables that look
alike. -/
structure StepAlike (p q : Reply × Table) : Prop where
  reply : p.1 = q.1
  rendered : p.1.Rendered
  table : p.2.Alike q.2

/-- Dropping the handles of a name. -/
lemma alike_store (htu : t.Alike u) (name : String) (hgh : g.Alike h) :
    Net.Alike Eq Table.Alike (store t name g) (store u name h) := by
  have hdrop : Net.Alike Eq Eq (dropAny (t.get? name)) (dropAny (u.get? name)) := by
    have hget := htu.get? name
    generalize t.get? name = a at hget ⊢
    generalize u.get? name = b at hget ⊢
    cases hget with
    | none => exact .pure rfl
    | some hij => exact Handle.alike_drop hij
  exact .bind_same hdrop fun _ => .pure (htu.insert name hgh)

/-- Opening handles under a name. -/
lemma alike_openAs (htu : t.Alike u) (name : String) {x y : Attempt Error Handle}
    (hxy : Net.Alike Eq (Ends Handle.Alike) x.run y.run) :
    Net.Alike Eq StepAlike (openAs t name x) (openAs u name y) := by
  refine .bind hxy fun r s hrs => ?_
  cases hrs with
  | error e => exact .pure ⟨rfl, trivial, htu⟩
  | ok hij =>
    exact .bind (alike_store htu name hij) fun _ _ htu' => .pure ⟨rfl, trivial, htu'⟩

/-- Opening two handles under two names. -/
lemma alike_openPair (htu : t.Alike u) (first second : String) :
    Net.Alike Eq StepAlike (openPair t first second) (openPair u first second) := by
  refine .bind Net.alike_socketpair fun r s hrs => ?_
  cases hrs with
  | error e => exact .pure ⟨rfl, trivial, htu⟩
  | @ok p q hpq =>
    obtain ⟨a, b⟩ := p
    obtain ⟨a', b'⟩ := q
    obtain ⟨ha, hb⟩ := hpq
    refine .bind (alike_store htu first ha) fun _ _ htu' => ?_
    refine .bind (alike_store htu' second hb) fun _ _ htu' => .pure ⟨?_, trivial, htu'⟩
    unfold Handle.compare
    rw [ha.congr Handle.number fun _ => rfl, hb.congr Handle.number fun _ => rfl]

/-- Operating on handles. -/
lemma alike_change (htu : t.Alike u) (name : String) (hgh : g.Alike h) {x : Handle.Act Unit}
    (hx : Handle.Act.Alike Eq x x) :
    Net.Alike Eq StepAlike (change t name g x) (change u name h x) := by
  refine .bind (hx g h hgh) ?_
  rintro ⟨r, i⟩ ⟨_, j⟩ ⟨rfl, hij⟩
  exact .pure ⟨rfl, trivial, htu.insert name hij⟩

/-- Transferring data on handles. -/
lemma alike_transfer {α : Type} (htu : t.Alike u) (name : String) {x y : Net (Transfer α)}
    (hxy : Net.Alike Eq Transfer.Alike x y) {reply : Transfer α → Reply}
    (hreply : ∀ a b : Transfer α, a.Alike b → reply a = reply b)
    (hrendered : ∀ a, (reply a).Rendered) :
    Net.Alike Eq StepAlike (transfer t name x reply) (transfer u name y reply) :=
  .bind hxy fun a b hab =>
    .pure ⟨hreply a b hab, hrendered a, htu.insert name hab.handle⟩

/-- A step on the handles of a name. -/
lemma alike_onHandle (htu : t.Alike u) (name : String)
    {f k : Handle → Net (Reply × Table)}
    (hfk : ∀ g h, g.Alike h → Net.Alike Eq StepAlike (f g) (k h)) :
    Net.Alike Eq StepAlike (onHandle t name f) (onHandle u name k) := by
  unfold onHandle
  have hget := htu.get? name
  generalize t.get? name = a at hget ⊢
  generalize u.get? name = b at hget ⊢
  cases hget with
  | none => exact .pure ⟨rfl, trivial, htu⟩
  | some hij => exact hfk _ _ hij

/-- A step that says nothing of ends, and leaves tables as they are. -/
lemma alike_reply {α : Type} {x y : Net α} (hxy : Net.Alike Eq Eq x y) {t' u' : Table}
    (htu : t'.Alike u') {reply : α → Reply} (hrendered : ∀ a, (reply a).Rendered) :
    Net.Alike Eq StepAlike (x >>= fun a => pure (reply a, t'))
      (y >>= fun a => pure (reply a, u')) :=
  .bind_same hxy fun a => .pure ⟨rfl, hrendered a, htu⟩

/-- A step on tables that look alike.

**Proof sketch.** One case for each step. A name has handles that look alike in both tables, or none
in either, and each operation goes alike on such handles. What an operation takes of a handle beside
what it remembers is the same in both (`Alike.congr`). -/
theorem alike_perform (htu : t.Alike u) (s : Step) :
    Net.Alike Eq StepAlike (perform t s) (perform u s) := by
  cases s with
  | connect as scope host service p flags =>
    exact alike_openAs htu as (Net.alike_connect _ _ _ _ _)
  | bind as scope host service p flags => exact alike_openAs htu as (Net.alike_bind _ _ _ _ _)
  | build as b last =>
    cases last with
    | connect host service => exact alike_openAs htu as (b.alike_connect _ _)
    | bind host service => exact alike_openAs htu as (b.alike_bind _ _)
    | listen host service => exact alike_openAs htu as (b.alike_listen _ _)
  | accept as scope name =>
    exact alike_onHandle htu name fun g h hgh => alike_openAs htu as (Net.alike_accept hgh scope)
  | socketpair first second => exact alike_openPair htu first second
  | reconnect name scope host service =>
    exact alike_onHandle htu name fun g h hgh =>
      alike_change htu name hgh (Handle.alike_reconnect Net.steady_eq _ _ _)
  | setDestination name a =>
    exact alike_onHandle htu name fun g h hgh =>
      alike_change htu name hgh (Handle.alike_setDestination a)
  | joinGroup name group interface =>
    exact alike_onHandle htu name fun g h hgh =>
      alike_change htu name hgh (Handle.alike_joinGroup _ _)
  | listen name scope =>
    refine alike_onHandle htu name fun g h hgh => ?_
    rw [hgh.congr (Net.listen scope) fun _ => rfl]
    exact alike_reply (.self _) htu fun _ => trivial
  | close name =>
    exact alike_onHandle htu name fun g h hgh =>
      alike_reply (Handle.alike_close hgh) (htu.erase name) fun _ => trivial
  | drop name =>
    exact alike_onHandle htu name fun g h hgh =>
      alike_reply (Handle.alike_drop hgh) (htu.erase name) fun _ => trivial
  | info name =>
    refine alike_onHandle htu name fun g h hgh => ?_
    obtain ⟨hinfo, hrendered, hgh'⟩ := hgh.info
    exact .pure ⟨congrArg Reply.info hinfo, hrendered,
      htu.insert name hgh'⟩
  | tell name q =>
    refine alike_onHandle htu name fun g h hgh => ?_
    obtain ⟨hanswer, hgh'⟩ := hgh.tell q
    exact .pure ⟨congrArg Reply.told hanswer, trivial, htu.insert name hgh'⟩
  | read name buffer side flags =>
    exact alike_onHandle htu name fun g h hgh =>
      alike_transfer htu name (Handle.alike_read hgh _ _ _)
        (fun a b hab => by rw [hab.result, hab.side]) fun _ => trivial
  | readVec name length side flags =>
    exact alike_onHandle htu name fun g h hgh =>
      alike_transfer htu name (Handle.alike_readVec hgh _ _ _)
        (fun a b hab => by rw [hab.result, hab.side]) fun _ => trivial
  | write name data side flags =>
    exact alike_onHandle htu name fun g h hgh =>
      alike_transfer htu name (Handle.alike_write hgh _ _ _)
        (fun a b hab => by rw [hab.result]) fun _ => trivial
  | joinRaw name group interface =>
    refine alike_onHandle htu name fun g h hgh => ?_
    rw [hgh.congr (fun i => onDescriptor i fun fd => Membership.join fd group interface)
      fun _ => rfl]
    exact alike_reply (.self _) htu fun _ => trivial
  | leaveRaw name group =>
    refine alike_onHandle htu name fun g h hgh => ?_
    rw [hgh.congr (fun i => onDescriptor i fun fd => Membership.leave fd group) fun _ => rfl]
    exact alike_reply (.self _) htu fun _ => trivial
  | compare first second =>
    refine alike_onHandle htu first fun a a' ha => alike_onHandle htu second fun b b' hb => ?_
    unfold Handle.compare
    rw [ha.congr Handle.number fun _ => rfl, hb.congr Handle.number fun _ => rfl]
    exact .pure ⟨rfl, trivial, htu⟩
  | feed name item =>
    refine alike_onHandle htu name fun g h hgh => ?_
    rw [hgh.congr (fun i => happenOn i fun k fd => k.feed fd item) fun _ => rfl]
    exact alike_reply (.self _) htu fun _ => trivial
  | finish name =>
    refine alike_onHandle htu name fun g h hgh => ?_
    rw [hgh.congr (fun i => happenOn i fun k fd => k.finish fd) fun _ => rfl]
    exact alike_reply (.self _) htu fun _ => trivial
  | script s => exact alike_reply (.self _) htu fun _ => trivial

/-- Two runs are in one world, with handles that look alike. -/
structure Alike (r s : Run) : Prop where
  world : r.world = s.world
  table : r.table.Alike s.table

/-- **Steps side by side.** A step on runs that look alike has the same reply, which tells what
addresses give, and leads to runs that look alike. -/
theorem Alike.step {r s : Run} (hrs : r.Alike s) (x : Step) :
    (r.step x).1 = (s.step x).1 ∧ (r.step x).1.Rendered ∧ (r.step x).2.Alike (s.step x).2 := by
  obtain ⟨⟨hreply, hrendered, htable⟩, hworld⟩ :=
    alike_perform hrs.table x r.world s.world hrs.world
  exact ⟨hreply, hrendered, hworld, htable⟩

end Run

end Sockets
