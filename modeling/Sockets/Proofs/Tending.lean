import Sockets.Handle.Info
import Sockets.Proofs.Groups
import Sockets.Proofs.HandleFrames
import Sockets.Proofs.Transfers

/-!
# Tending a handle

While a handle is alive its group and its session are on the books of its descriptor. Whatever is
asked of it, and however that ends, the books stay right and the handle stays the same in what it
was made with; when it is torn down, its descriptor is taken off the books.

## Main definitions

* `Sockets.Handle.holding` — what a handle holds on its descriptor.
* `Sockets.Handle.WellFormed` — the parts of a handle agree with each other.
* `Sockets.Handle.Same` — one handle is another at a later time.
* `Sockets.Handle.Tended` — a handle after an operation on it.

## Main results

* `Sockets.Handle.leads_joinGroup`, `Sockets.Handle.leads_setDestination`,
  `Sockets.Handle.leads_reconnect` — operations tend the handle.
* `Sockets.Handle.leads_read`, `Sockets.Handle.leads_write` — and so do transfers.
* `Sockets.Handle.leads_teardown`, `Sockets.Handle.leads_drop`, `Sockets.Handle.leads_close` —
  tearing down takes the descriptor off the books.
-/

set_option autoImplicit false

namespace Sockets

open Net (Leads)

/-! ## Handles and what they hold -/

namespace Handle

/-- What a handle holds on its descriptor. -/
def holding (h : Handle) : Holding := ⟨h.membership.map Membership.group, h.session.isSome⟩

/-- The parts of a handle agree with each other: its flags say whether it is in a group, and only
an encrypted handle has a session. -/
structure WellFormed (h : Handle) : Prop where
  joined_iff : h.flags.joined = true ↔ h.membership.isSome = true
  enabled_of_strict : h.flags.tls.isStrict = true → h.flags.tls.enabled = true
  enabled_of_session : h.session.isSome = true → h.flags.tls.enabled = true

/-- One handle is another at a later time: it is the same in what it was made with. -/
structure Same (g h : Handle) : Prop where
  id_eq : h.id = g.id
  descriptor_eq : h.descriptor = g.descriptor
  protocol_eq : h.protocol = g.protocol
  tls_eq : h.flags.tls = g.flags.tls
  session_eq : h.session.isSome = g.session.isSome

/-- A handle after an operation on it: it still owns its descriptor, it is well-formed, the same as
before, and what it holds is on the books. -/
structure Tended (stray : Prop) (H : Holdings) (fd : Descriptor) (g h : Handle) (w : World) :
    Prop where
  descriptor_eq : h.descriptor = some fd
  wellFormed : h.WellFormed
  same : g.Same h
  books : Books stray w (Function.update H fd (some h.holding))

variable {α : Type} {stray : Prop} {H : Holdings} {fd : Descriptor} {g h : Handle} {w : World}

namespace Same

/-- A handle is the same as itself. -/
@[refl]
lemma refl (g : Handle) : g.Same g := ⟨rfl, rfl, rfl, rfl, rfl⟩

/-- A handle that is the same at two later times, one after the other. -/
lemma trans {i : Handle} (hgh : g.Same h) (hhi : h.Same i) : g.Same i :=
  ⟨hhi.id_eq.trans hgh.id_eq, hhi.descriptor_eq.trans hgh.descriptor_eq,
    hhi.protocol_eq.trans hgh.protocol_eq, hhi.tls_eq.trans hgh.tls_eq,
    hhi.session_eq.trans hgh.session_eq⟩

end Same

/-- The handle with other ends of its connection. -/
def moved (h : Handle) (near far : Endpoint) : Handle := { h with near := near, far := far }

/-- Asking a handle about an end leaves all but what the ends remember. -/
lemma exists_moved_tell (h : Handle) (q : Question) :
    ∃ near far, (h.tell q).2 = h.moved near far := by
  cases q <;> exact ⟨_, _, rfl⟩

/-- Where a handle is connected to has no part in what it is. -/
lemma WellFormed.moved (h' : h.WellFormed) (near far : Endpoint) : (h.moved near far).WellFormed :=
  ⟨h'.joined_iff, h'.enabled_of_strict, h'.enabled_of_session⟩

namespace Tended

/-- Where a handle is connected to has no part in what it is. -/
lemma moved (h' : Tended stray H fd g h w) (near far : Endpoint) :
    Tended stray H fd g (h.moved near far) w :=
  ⟨h'.descriptor_eq, h'.wellFormed.moved near far,
    h'.same.trans ⟨rfl, rfl, rfl, rfl, rfl⟩, h'.books⟩

/-- A handle that was tended is well-formed and on the books. -/
lemma self (h' : Tended stray H fd g h w) : Tended stray H fd h h w :=
  ⟨h'.descriptor_eq, h'.wellFormed, .refl h, h'.books⟩

/-- An operation that does nothing to descriptors tends the handle. -/
lemma leads_idle {x : Net α} (hx : Net.Only Event.Idle x) :
    Leads (Tended stray H fd g h) x fun _ w => Tended stray H fd g h w :=
  fun _ hw => ⟨hw.descriptor_eq, hw.wellFormed, hw.same, hw.books.only hx⟩

/-- A log record tends the handle. -/
lemma leads_record (level : Level) (message : String) :
    Leads (Tended stray H fd g h) (Net.record level message) fun _ w => Tended stray H fd g h w :=
  leads_idle (Net.Only.idle_record level message)

/-- A system call that does nothing to descriptors tends the handle. -/
lemma leads_call (c : Call) (h' : c.kind ∉ Event.active) :
    Leads (Tended stray H fd g h) (Net.syscall c) fun _ w => Tended stray H fd g h w :=
  leads_idle (.idle (.syscall c (List.mem_singleton_self _)) (by simpa using h'))

end Tended

/-! ## Addresses -/

/-- Asking the kernel for an address leaves the handle as it is. -/
lemma leads_ask (name : String) (c : Descriptor → Call)
    (read : (fd : Descriptor) → (c fd).Answer → Address)
    (hc : (c fd).kind ∉ Event.active) :
    Leads (Tended stray H fd g h) ((ask name c read).on h)
      fun p w => p.2 = h ∧ Tended stray H fd g h w := by
  refine .assuming (fun _ hw => hw.descriptor_eq) fun hfd => ?_
  refine Act.leads_owned_bind hfd ?_
  refine Act.leads_ofNet_bind (Tended.leads_call _ hc) fun r => ?_
  cases r with
  | ok answer => exact Act.leads_pure _ fun _ hw => ⟨rfl, hw⟩
  | error n =>
    refine Act.leads_record_bind (Tended.leads_record _ _) ?_
    exact Act.leads_throw _ fun _ hw => ⟨rfl, hw⟩

/-- Asking for the near address settles it, or leaves the handle as it is. -/
lemma leads_refreshNear : Leads (Tended stray H fd g h) (refreshNear.on h) fun p w =>
    (p.2 = h.moved p.2.near h.far ∧ (p.1 = .ok () → p.2.near.address.isSome = true)) ∧
      Tended stray H fd g p.2 w := by
  refine Act.leads_bind (leads_ask _ _ _ (by simp [Call.kind, Event.active]))
    (fun a i => .of_and ?_) ?_
  · rintro rfl
    exact Act.leads_modify _ fun _ hw => ⟨⟨rfl, fun _ => rfl⟩, hw.moved _ _⟩
  · rintro e i w ⟨rfl, hw⟩
    exact ⟨⟨rfl, by simp⟩, hw⟩

/-- Putting the far address in place settles it. -/
lemma leads_setFar (a : Address) : Leads (Tended stray H fd g h) ((setFar a).on h) fun p w =>
    p.2 = h.moved h.near (.ofAddress a) ∧ Tended stray H fd g p.2 w :=
  Act.leads_modify _ fun _ hw => ⟨rfl, hw.moved _ _⟩

/-- Asking for the far address settles it, or leaves the handle as it is. -/
lemma leads_refreshFar : Leads (Tended stray H fd g h) (refreshFar.on h) fun p w =>
    (p.2 = h.moved h.near p.2.far ∧ (p.1 = .ok () → p.2.far.address.isSome = true)) ∧
      Tended stray H fd g p.2 w := by
  refine Act.leads_bind (leads_ask _ _ _ (by simp [Call.kind, Event.active]))
    (fun a i => .of_and ?_) ?_
  · rintro rfl
    refine (leads_setFar a).weaken (fun _ hw => hw) ?_
    rintro ⟨r, j⟩ w ⟨rfl, hw⟩
    exact ⟨⟨rfl, fun _ => rfl⟩, hw⟩
  · rintro e i w ⟨rfl, hw⟩
    exact ⟨⟨rfl, by simp⟩, hw⟩

/-- Setting a destination tends the handle. -/
theorem leads_setDestination (a : Address) :
    Leads (Tended stray H fd g h) ((setDestination a).on h)
      fun p w => Tended stray H fd g p.2 w := by
  refine Act.leads_get_bind ?_
  dsimp only
  split
  · exact Act.leads_throw_bind _ _ fun _ hw => hw
  split
  · exact Act.leads_throw_bind _ _ fun _ hw => hw
  refine Act.leads_record_bind (Tended.leads_record _ _) ?_
  exact (leads_setFar a).weaken (fun _ hw => hw) fun _ _ hw => hw.2

/-! ## Groups -/

/-- Joining a group and remembering it tends a handle that is in none.

**Proof sketch.** The handle is in no group, so none is held on its descriptor, and joining puts
this one on the books (`Membership.leads_join`). Until the handle remembers the group the books are
ahead of it; when it does, the two agree again. -/
lemma leads_takeUp (hj : h.flags.joined = false) (group : Address) (interface : Interface) :
    Leads (Tended stray H fd g h) ((takeUp fd group interface).on h) fun p w =>
      (p.2.near = h.near ∧ p.2.far = h.far) ∧ Tended stray H fd g p.2 w := by
  refine .assuming (φ := h.descriptor = some fd ∧ h.WellFormed ∧ g.Same h)
    (fun _ hw => ⟨hw.descriptor_eq, hw.wellFormed, hw.same⟩) fun ⟨hfd, hwf, hsame⟩ => ?_
  have hgroup : h.holding.group = none := by
    have hm : h.membership = none := by
      rw [← Option.not_isSome_iff_eq_none, ← hwf.joined_iff, hj]
      exact Bool.false_ne_true
    simp [holding, hm]
  have hjoin : Leads (fun w => Books stray w (Function.update H fd (some h.holding)))
      (Membership.join fd group interface).run
      (Membership.Joined stray (Function.update H fd (some h.holding)) fd h.holding) :=
    Membership.leads_join (Function.update_self ..) hgroup group interface
  refine Act.leads_bind (R := fun p w => p.2 = h ∧ Membership.Joined stray
      (Function.update H fd (some h.holding)) fd h.holding p.1 w)
    (Act.leads_ofAttempt (hjoin.weaken (fun _ hw => hw.books) fun _ _ hw => ⟨rfl, hw⟩)) ?_ ?_
  · refine fun m i => .of_and ?_
    rintro rfl
    -- The record stands between joining and remembering, so the books are ahead of the handle.
    refine Act.leads_record_bind (Books.leads_record _ _) ?_
    refine Act.leads_modify _ fun w hw => ⟨⟨rfl, rfl⟩, hfd, ?_, ?_, ?_⟩
    · exact ⟨by simp [Flags.withGroup], hwf.enabled_of_strict, hwf.enabled_of_session⟩
    · exact hsame.trans ⟨rfl, rfl, rfl, rfl, rfl⟩
    · rwa [Function.update_idem] at hw
  · rintro e i w ⟨rfl, hw⟩
    exact ⟨⟨rfl, rfl⟩, hfd, hwf, hsame, hw⟩

/-- Joining the group of the peer, where there is one to join, tends the handle. -/
lemma leads_joinPeer : Leads (Tended stray H fd g h) (joinPeer.on h) fun p w =>
    (p.2.near = h.near ∧ p.2.far = h.far) ∧ Tended stray H fd g p.2 w := by
  refine .assuming (fun _ hw => hw.descriptor_eq) fun hfd => ?_
  exact Act.leads_joinPeer hfd (fun _ hw => ⟨⟨rfl, rfl⟩, hw⟩) fun hj _ => leads_takeUp hj _ _

/-- Joining a given group tends the handle. -/
theorem leads_joinGroup (group : Address) (interface : Interface) :
    Leads (Tended stray H fd g h) ((joinGroup group interface).on h)
      fun p w => Tended stray H fd g p.2 w := by
  refine .assuming (fun _ hw => hw.descriptor_eq) fun hfd => ?_
  refine Act.leads_joinGroup hfd (fun _ _ hw => hw) fun hj => ?_
  exact (leads_takeUp hj _ _).weaken (fun _ hw => hw) fun _ _ hw => hw.2

/-- The group of a handle is off the books when it is left, whether or not that fails.

**Proof sketch.** The one call leaves the group that is on the books (`Membership.leads_leave`). It
does so whether or not it succeeds, and everything else is a record. -/
lemma leads_leaveGroup {m : Membership} (hm : h.membership = some m) :
    Leads (fun w => Books stray w (Function.update H fd (some h.holding))) (leaveGroup h.id fd m)
      fun _ w => Books stray w (Function.update H fd (some { h.holding with group := none })) := by
  have hleave : Leads (fun w => Books stray w (Function.update H fd (some h.holding)))
      (Membership.leave fd (.ofIp m.group 0)).run fun _ w =>
        Books stray w (Function.update H fd (some { h.holding with group := none })) := by
    refine (Membership.leads_leave (Function.update_self ..) ?_).weaken (fun _ hw => hw) ?_
    · simp [holding, hm]
    · intro _ w hw
      rwa [Function.update_idem] at hw
  refine .bind (Books.leads_record _ _) fun _ => .bind hleave fun r => ?_
  cases r with
  | ok _ => exact .pure _ fun _ hw => hw
  | error e => exact Books.leads_record _ _

/-- The handle outside of any group. -/
def parted (h : Handle) : Handle := { h with membership := none, flags := h.flags.requested }

/-- A well-formed handle in no group is outside of any group. -/
lemma parted_of_membership (hwf : h.WellFormed) (hm : h.membership = none) : h.parted = h := by
  have hj : h.flags.joined = false := by
    rw [← Bool.not_eq_true, hwf.joined_iff, hm]
    exact Bool.false_ne_true
  obtain ⟨id, descriptor, protocol, ⟨tls, joined⟩, near, far, session, membership⟩ := h
  simp_all [parted, Flags.requested]

/-- Leaving the group that was joined tends the handle, which is outside of any group then.

**Proof sketch.** Without a membership there is nothing to do. With one, leaving its group takes it
off the books (`leads_leaveGroup`), and the handle forgets it in the same act. -/
lemma leads_releaseGroup : Leads (Tended stray H fd g h) (releaseGroup.on h)
    fun p w => p = (.ok (), h.parted) ∧ Tended stray H fd g p.2 w := by
  refine .assuming (φ := h.descriptor = some fd ∧ h.WellFormed ∧ g.Same h)
    (fun _ hw => ⟨hw.descriptor_eq, hw.wellFormed, hw.same⟩) fun ⟨hfd, hwf, hsame⟩ => ?_
  refine Act.leads_get_bind ?_
  cases hm : h.membership with
  | none =>
    refine Act.leads_pure _ fun w hw => ?_
    rw [parted_of_membership hwf hm]
    exact ⟨rfl, hw⟩
  | some m =>
    dsimp only
    rw [hfd]
    refine Act.leads_ofNet_bind
      ((leads_leaveGroup hm).weaken (fun _ hw => hw.books) fun _ _ hw => hw)
      fun _ => Act.leads_modify _ fun w hw => ⟨rfl, hfd, ?_, ?_, hw⟩
    · exact ⟨by simp [Flags.requested], hwf.enabled_of_strict, hwf.enabled_of_session⟩
    · exact hsame.trans ⟨rfl, rfl, rfl, rfl, rfl⟩

/-- **Connecting to another peer** tends the handle, wherever it fails.

**Proof sketch.** Connecting to another peer is put together from leaving a group, connecting,
asking for both addresses and joining the group of the peer (`Act.leads_reconnect`). Each of these
tends the handle. -/
theorem leads_reconnect (scope : Scope) (host service : String) :
    Leads (Tended stray H fd g h) ((reconnect scope host service).on h)
      fun p w => Tended stray H fd g p.2 w :=
  Act.leads_reconnect (J := fun h => Tended stray H fd g h) (fun _ _ hw => hw.descriptor_eq)
    (fun _ hx => Tended.leads_idle (hx.idle (by decide)))
    (fun _ => leads_releaseGroup.weaken (fun _ hw => hw) fun _ _ hw => hw.2)
    (fun _ => leads_refreshNear.weaken (fun _ hw => hw) fun _ _ hw => hw.2)
    (fun _ => leads_refreshFar.weaken (fun _ hw => hw) fun _ _ hw => hw.2)
    (fun _ => leads_joinPeer.weaken (fun _ hw => hw) fun _ _ hw => hw.2) scope host service

/-! ## Transfers -/

/-- Using the session of a handle, which goes on as another one, tends the handle.

**Proof sketch.** The deed is a use of the session that is on the books. The handle goes on with
another session, which is one all the same, so that what it holds is what it was. -/
lemma leads_note_used (hs : h.session.isSome = true) (s : Tls.Session) (c : TlsCall)
    (outcome : TlsOutcome) (hc : c.deed? outcome = some .used) :
    Leads (Tended stray H fd g h) (Net.note (.tls fd c outcome))
      fun _ w => Tended stray H fd g { h with session := some s } w := by
  intro w hw
  have hbooks := hw.books.deed (.note (.tls fd c outcome) rfl) rfl (by simp [Event.target?, hc])
    (Function.update_self ..) (.used hs)
  refine ⟨hw.descriptor_eq, ?_, ?_, ?_⟩
  · exact ⟨hw.wellFormed.joined_iff, hw.wellFormed.enabled_of_strict,
      fun _ => hw.wellFormed.enabled_of_session hs⟩
  · exact hw.same.trans ⟨rfl, rfl, rfl, rfl, hs.symm⟩
  · show Books stray (w.noting _) _
    have hsame : Handle.holding { h with session := some s } = h.holding := by
      simp [holding, hs]
    rwa [Function.update_idem, ← hsame] at hbooks

/-- A call that moves data does nothing to descriptors. -/
lemma notMem_active {k : CallKind} (hk : k.movesData = true) : k ∉ Event.active := by
  cases k <;> simp [CallKind.movesData, Event.active] at hk ⊢

/-- A call of a session that moves data uses it, however it ends. -/
lemma deed?_of_answers {s t : Tls.Session} {c : TlsCall} {answer : Except TlsError Nat}
    (hanswer : s.Answers c answer t) (outcome : TlsOutcome) : c.deed? outcome = some .used := by
  cases hanswer <;> rfl

/-- **A transfer** tends the handle, whatever becomes of it: a call that moves data is not on the
books, and the use of a session is what the books allow.

**Proof sketch.** By the ways a transfer can go. A call that moves data is none that the books keep;
a use of a session is an event on the descriptor, and the session that is held on it allows that. -/
lemma Goes.tended {side : Option SideData} {senseless : Prop} {v : World}
    {out : Transfer α × World} (hgoes : h.Goes fd v side senseless out)
    (hv : Tended stray H fd g h v) : Tended stray H fd g out.1.handle out.2 := by
  cases hgoes with
  | refused => exact hv
  | unreservable => exact Tended.leads_record _ _ _ hv
  | failed _ hc =>
    exact Tended.leads_record _ _ _ (Tended.leads_call _ (notMem_active hc) _ hv)
  | done _ hc =>
    exact Tended.leads_record _ _ _ (Tended.leads_call _ (notMem_active hc) _ hv)
  | denied _ hs hanswer =>
    exact Tended.leads_record _ _ _
      (leads_note_used (by simp [hs]) _ _ _ (deed?_of_answers hanswer _) _ hv)
  | used _ hs hanswer =>
    exact Tended.leads_record _ _ _
      (leads_note_used (by simp [hs]) _ _ _ (deed?_of_answers hanswer _) _ hv)

/-- **Reading** tends the handle. -/
theorem leads_read (buffer : Bytes) (side : Option SideData) (flags : MessageFlags) :
    Leads (Tended stray H fd g h) (h.read buffer side flags)
      fun t w => Tended stray H fd g t.handle w :=
  fun v hv => (goes_read hv.descriptor_eq v buffer side flags).tended hv

/-- Reading into a buffer made for it tends the handle. -/
theorem leads_readVec (length : Nat) (side : Option SideData) (flags : MessageFlags) :
    Leads (Tended stray H fd g h) (h.readVec length side flags)
      fun t w => Tended stray H fd g t.handle w :=
  fun v hv => (goes_readVec hv.descriptor_eq v length side flags).tended hv

/-- **Writing** tends the handle. -/
theorem leads_write (data : Bytes) (side : Option SideData) (flags : MessageFlags) :
    Leads (Tended stray H fd g h) (h.write data side flags)
      fun t w => Tended stray H fd g t.handle w :=
  fun v hv => (goes_write hv.descriptor_eq v data side flags).tended hv

/-! ## Tearing down -/

/-- What a handle held on its descriptor is off the books when it has parted with its group.

**Proof sketch.** By whether there is a membership. Without one nothing is done, and with one it is
left and off the books (`leads_leaveGroup`). -/
lemma leads_partGroup (hj : h.flags.joined = true ↔ h.membership.isSome = true) :
    Leads (fun w => Books stray w (Function.update H fd (some h.holding))) (h.partGroup fd)
      fun i w => i = { h with membership := none } ∧
        Books stray w (Function.update H fd (some i.holding)) := by
  unfold partGroup
  cases hm : h.membership with
  | none =>
    have heq : { h with membership := none } = h := by rw [← hm]
    rw [if_neg (by simp [hj, hm])]
    exact .pure h fun w hw => ⟨heq.symm, hw⟩
  | some m =>
    rw [if_pos (hj.2 (by simp [hm]))]
    exact .bind (leads_leaveGroup hm) fun _ => .pure _ fun w hw => ⟨rfl, hw⟩

/-- The session of a handle is off the books when it is shut down, whether or not that fails.

**Proof sketch.** The note of the call is the deed that takes the session off the books, and
everything else is a record. -/
lemma leads_shutSession {s : Tls.Session} (hs : h.session = some s) :
    Leads (fun w => Books stray w (Function.update H fd (some h.holding))) (shutSession h.id fd s)
      fun _ w =>
        Books stray w (Function.update H fd (some { h.holding with session := false })) := by
  refine .bind (Books.leads_record _ _) fun _ => ?_
  refine .bind (R := fun _ w =>
    Books stray w (Function.update H fd (some { h.holding with session := false })))
    (fun w hw => ?_) fun _ => ?_
  · have hshut := hw.deed (.note (.tls fd .shutdown (.ofUnit s.takeShutdown.1)) rfl) rfl rfl
      (Function.update_self ..) (.shut (by simp [holding, hs]))
    rwa [Function.update_idem] at hshut
  · split
    · exact .pure _ fun _ hw => hw
    · exact Books.leads_record _ _

/-- What a handle held on its descriptor is off the books when it has parted with its session. -/
lemma leads_partSession (he : h.session.isSome = true → h.flags.tls.enabled = true) :
    Leads (fun w => Books stray w (Function.update H fd (some h.holding))) (h.partSession fd)
      fun i w => i = { h with session := none } ∧
        Books stray w (Function.update H fd (some i.holding)) := by
  unfold partSession
  cases hs : h.session with
  | none =>
    have heq : { h with session := none } = h := by rw [← hs]
    split <;> exact .pure h fun w hw => ⟨heq.symm, hw⟩
  | some s =>
    rw [if_pos (he (by simp [hs]))]
    exact .bind (leads_shutSession hs) fun _ => .pure _ fun w hw => ⟨rfl, hw⟩

/-- **Tearing down** takes the descriptor off the books, whatever fails on the way, and leaves a
handle without one.

**Proof sketch.** First the group is left, then the session is shut down, each of them by what the
handle knows of it, so that nothing is held on the descriptor any more. Then it may be closed, and
that takes it off the books even where closing fails. -/
theorem leads_teardown : Leads (Tended stray H fd g h) h.teardown
    fun p w => p.2.descriptor = none ∧ Books stray w (Function.update H fd none) := by
  refine .assuming (φ := h.descriptor = some fd ∧ h.WellFormed)
    (fun _ hw => ⟨hw.descriptor_eq, hw.wellFormed⟩) fun ⟨hfd, hwf⟩ => ?_
  unfold teardown
  rw [hfd]
  refine .bind ((leads_partGroup (h := { h with descriptor := none }) hwf.joined_iff).weaken
    (fun _ hw => hw.books) fun _ _ hw => hw) fun i => .of_and ?_
  rintro rfl
  refine .bind (leads_partSession hwf.enabled_of_session) fun i => .of_and ?_
  rintro rfl
  -- Nothing is held any more, so the descriptor can be closed.
  refine .bind (R := fun _ w => Books stray w (Function.update H fd none)) ?_
    fun status => .pure _ fun _ hw => ⟨rfl, hw⟩
  refine .bind (Books.leads_record _ _) fun _ => ?_
  refine .run_lift_bind (Books.leads_close (Function.update_self ..)) fun r => ?_
  rw [Function.update_idem]
  cases r with
  | ok _ => exact .run_pure _ fun _ hw => hw
  | error n => exact Books.leads_refuse _ _ _ fun _ hw => hw

/-- Dropping a handle takes its descriptor off the books. -/
theorem leads_drop : Leads (Tended stray H fd g h) h.drop
    fun _ w => Books stray w (Function.update H fd none) := by
  refine .assuming (fun _ hw => hw.descriptor_eq) fun hfd => ?_
  unfold drop
  rw [hfd]
  refine .bind leads_teardown fun p => .of_and fun _ => ?_
  obtain ⟨status, rest⟩ := p
  cases status with
  | ok _ => exact .pure _ fun _ hw => hw
  | error e => exact Books.leads_record _ _

/-- Closing a handle takes its descriptor off the books. -/
theorem leads_close : Leads (Tended stray H fd g h) h.close
    fun _ w => Books stray w (Function.update H fd none) := by
  refine .bind leads_teardown fun p => .of_and fun hp => ?_
  refine .bind (R := fun _ w => Books stray w (Function.update H fd none)) (fun w hw => ?_)
    fun _ => .pure _ fun _ hw => hw
  rw [drop_of_closed hp]
  exact hw

end Handle

end Sockets
