import Sockets.Proofs.HandleFrames
import Sockets.Proofs.Transfers

/-!
# Calls of sessions

A session, and the provider that it comes from, are called on a descriptor. This module says for the
operations on a handle which of these calls they make: a transfer of an encrypted handle makes one,
parting with a session makes one, and everything else makes none and leaves the session as it is.

## Main definitions

* `Sockets.Dealing`, `Sockets.World.dealings` — a call of a session or its provider on a descriptor.
* `Sockets.World.Told` — the dealings on the way from one world to another.
* `Sockets.Handle.Quiet` — a handle after an operation that leaves its session as it is.
* `Sockets.Handle.Spoke` — what a transfer does to the session of its handle.

## Main results

* `Sockets.Handle.Quiet.frame`, `Sockets.Handle.quiet_reconnect`,
  `Sockets.Handle.quiet_setDestination` — operations that call no session.
* `Sockets.Handle.Goes.spoke` — transfers.
* `Sockets.Handle.told_drop`, `Sockets.Handle.told_close` — tearing down.
-/

set_option autoImplicit false

namespace Sockets

open Event (Within)
open Net (Leads Only)

/-! ## Dealings -/

/-- A call of a session or its provider on a descriptor, and how it ended. -/
structure Dealing where
  on : Descriptor
  call : TlsCall
  outcome : TlsOutcome

/-- The call of a session or its provider that an event is. -/
def Event.dealing? : Event → Option Dealing
  | tls fd c outcome => some ⟨fd, c, outcome⟩
  | call .. | query _ | record .. | trace _ => none

/-- System calls, records, traces and queries call no session. -/
lemma Event.Within.dealing?_eq {kinds : List CallKind} {e : Event} (h : e.Within kinds) :
    e.dealing? = none := by
  cases e with
  | tls => exact h.elim
  | call | query | record | trace => rfl

namespace World

/-- The calls of sessions and their providers so far. -/
def dealings (w : World) : List Dealing := w.journal.filterMap Event.dealing?

/-- The dealings on the way from one world to another. -/
def Told (u : World) (ds : List Dealing) (w : World) : Prop :=
  ∃ es, w.journal = u.journal ++ es ∧ es.filterMap Event.dealing? = ds

namespace Told

variable {α : Type} {u v w : World} {ds es : List Dealing}

/-- Nothing is told where nothing happens. -/
lemma of_journal_eq (h : w.journal = u.journal) : u.Told [] w := ⟨[], by simp [h], rfl⟩

/-- What is told on one way after another. -/
lemma trans (huv : u.Told ds v) (hvw : v.Told es w) : u.Told (ds ++ es) w := by
  obtain ⟨as, has, rfl⟩ := huv
  obtain ⟨bs, hbs, rfl⟩ := hvw
  exact ⟨as ++ bs, by rw [hbs, has, List.append_assoc], List.filterMap_append⟩

/-- Where nothing is told on the second way. -/
lemma trans_nil (huv : u.Told ds v) (hvw : v.Told [] w) : u.Told ds w := by
  simpa using huv.trans hvw

/-- What was told is added to the dealings. -/
lemma dealings_eq (h : u.Told ds w) : w.dealings = u.dealings ++ ds := by
  obtain ⟨es, hes, rfl⟩ := h
  rw [dealings, hes, List.filterMap_append]
  rfl

/-- A life only goes on. -/
lemma exists_life_eq (h : u.Told ds w) (fd : Descriptor) :
    ∃ more, w.life fd = u.life fd ++ more := by
  obtain ⟨es, hes, -⟩ := h
  exact ⟨es.filterMap (Event.deed? fd), by rw [life, hes, List.filterMap_append, life]⟩

/-- System calls, records and queries tell nothing. -/
lemma of_onward {kinds : List CallKind} (hw : v.Onward (Within kinds) w) : v.Told [] w := by
  obtain ⟨es, hes, hin⟩ := hw.journal_eq
  exact ⟨es, hes, List.filterMap_eq_nil_iff.2 fun e he => (hin e he).dealing?_eq⟩

/-- An operation that makes system calls, records and queries tells nothing. -/
lemma of_only {kinds : List CallKind} {x : Net α} (hx : Only (Within kinds) x) (w : World) :
    w.Told [] (x w).2 :=
  of_onward (hx w)

/-- System calls, records and queries tell nothing more. -/
lemma leads_within {kinds : List CallKind} {x : Net α} (hx : Only (Within kinds) x) :
    Leads (u.Told ds) x fun _ => u.Told ds :=
  fun w hw => hw.trans_nil (of_only hx w)

/-- What leaves the journal tells nothing more. -/
lemma leads_aside {x : Net α} (hx : ∀ w, (x w).2.journal = w.journal) :
    Leads (u.Told ds) x fun _ => u.Told ds :=
  fun w hw => hw.trans_nil (of_journal_eq (hx w))

/-- A log record tells nothing more. -/
lemma leads_record (level : Level) (message : String) :
    Leads (u.Told ds) (Net.record level message) fun _ => u.Told ds :=
  fun _ hw => hw.trans_nil ⟨_, rfl, rfl⟩

/-- A system call tells nothing more. -/
lemma leads_call (c : Call) : Leads (u.Told ds) (Net.syscall c) fun _ => u.Told ds :=
  fun _ hw => hw.trans_nil ⟨_, rfl, rfl⟩

/-- A call of a session or its provider is one more dealing. -/
lemma leads_note (fd : Descriptor) (c : TlsCall) (outcome : TlsOutcome) :
    Leads (u.Told ds) (Net.note (.tls fd c outcome))
      fun _ => u.Told (ds ++ [⟨fd, c, outcome⟩]) :=
  fun _ hw => hw.trans ⟨_, rfl, rfl⟩

end Told

end World

open World (Told)

/-! ## Quiet operations -/

namespace Handle

/-- A handle after an operation that leaves its session as it is. -/
structure Quiet (u : World) (ds : List Dealing) (fd : Descriptor) (g h : Handle) (w : World) :
    Prop where
  told : u.Told ds w
  descriptor_eq : h.descriptor = some fd
  session_eq : h.session = g.session
  tls_eq : h.flags.tls = g.flags.tls

variable {α : Type} {u : World} {ds : List Dealing} {fd : Descriptor} {g h : Handle}

namespace Quiet

/-- A handle at the beginning of an operation. -/
lemma self {w : World} (hw : u.Told ds w) (hfd : g.descriptor = some fd) : Quiet u ds fd g g w :=
  ⟨hw, hfd, rfl, rfl⟩

/-- What is as quiet as an operation on the world. -/
lemma leads_told {x : Net α} (hx : Leads (u.Told ds) x fun _ => u.Told ds) :
    Leads (Quiet u ds fd g h) x fun _ => Quiet u ds fd g h :=
  fun w hw => ⟨hx w hw.told, hw.descriptor_eq, hw.session_eq, hw.tls_eq⟩

/-- A handle that is another one in what has nothing to do with sessions. -/
lemma congr {i : Handle} {w : World} (hw : Quiet u ds fd g h w)
    (hd : i.descriptor = h.descriptor) (hs : i.session = h.session)
    (ht : i.flags.tls = h.flags.tls) : Quiet u ds fd g i w :=
  ⟨hw.told, hd.trans hw.descriptor_eq, hs.trans hw.session_eq, ht.trans hw.tls_eq⟩

/-- To leave the session of a handle as it is, is a frame. -/
lemma frame : Frame fd (Quiet u ds fd g) where
  descriptor_eq _ _ hw := hw.descriptor_eq
  within _ hx _ := leads_told (Told.leads_within hx)
  near _ _ _ hw := hw.congr rfl rfl rfl
  group _ _ _ _ htls hw := hw.congr rfl rfl htls

end Quiet

/-- Asking the kernel for an address is quiet. -/
lemma quiet_ask (name : String) (c : Descriptor → Call)
    (read : (fd : Descriptor) → (c fd).Answer → Address) :
    Leads (Quiet u ds fd g h) ((ask name c read).on h) fun p => Quiet u ds fd g p.2 := by
  refine .assuming (fun _ hw => hw.descriptor_eq) fun hfd => ?_
  refine Act.leads_owned_bind hfd ?_
  refine Act.leads_ofNet_bind (Quiet.leads_told (Told.leads_call _)) fun r => ?_
  cases r with
  | ok answer => exact Act.leads_pure _ fun _ hw => hw
  | error n =>
    refine Act.leads_record_bind (Quiet.leads_told (Told.leads_record _ _)) ?_
    exact Act.leads_throw _ fun _ hw => hw

/-- Putting the far address in place is quiet. -/
lemma quiet_setFar (a : Address) :
    Leads (Quiet u ds fd g h) ((setFar a).on h) fun p => Quiet u ds fd g p.2 :=
  Act.leads_modify _ fun _ hw => hw.congr rfl rfl rfl

/-- Asking for the far address is quiet. -/
lemma quiet_refreshFar :
    Leads (Quiet u ds fd g h) (refreshFar.on h) fun p => Quiet u ds fd g p.2 :=
  Act.leads_bind (quiet_ask _ _ _) (fun a _ => quiet_setFar a) fun _ _ _ hw => hw

/-- Setting a destination is quiet. -/
lemma quiet_setDestination (a : Address) :
    Leads (Quiet u ds fd g h) ((setDestination a).on h) fun p => Quiet u ds fd g p.2 := by
  refine Act.leads_get_bind ?_
  dsimp only
  split
  · exact Act.leads_throw_bind _ _ fun _ hw => hw
  split
  · exact Act.leads_throw_bind _ _ fun _ hw => hw
  · exact Act.leads_record_bind (Quiet.leads_told (Told.leads_record _ _)) (quiet_setFar a)

/-- **Connecting to another peer** is quiet. -/
theorem quiet_reconnect (scope : Scope) (host service : String) :
    Leads (Quiet u ds fd g h) ((reconnect scope host service).on h)
      fun p => Quiet u ds fd g p.2 :=
  Quiet.frame.leads_reconnect (fun _ => quiet_refreshFar) scope host service

end Handle

/-! ## Transfers -/

namespace Handle

variable {u v : World} {fd : Descriptor} {h : Handle}

/-- What a transfer on a handle does to its session: nothing, or one call. -/
inductive Spoke (u : World) (fd : Descriptor) (h : Handle) : Handle → World → Prop
  | silent {w : World} (hw : u.Told [] w) : Spoke u fd h h w
  | used {s t : Tls.Session} {c : TlsCall} {answer : Except TlsError Nat} {w : World}
      (hs : h.session = some s) (hu : s.Answers c answer t)
      (hw : u.Told [⟨fd, c, .ofCount answer⟩] w) : Spoke u fd h { h with session := some t } w

/-- **A transfer** calls the session of its handle once, or not at all.

**Proof sketch.** By how the transfer went. A call that moves data says nothing to a session, and
neither does a record. A session is called once, and it answers or denies. -/
lemma Goes.spoke {α : Type} {side : Option SideData} {senseless : Prop}
    {out : Transfer α × World} (hgoes : h.Goes fd v side senseless out) (hv : u.Told [] v) :
    Spoke u fd h out.1.handle out.2 := by
  cases hgoes with
  | refused => exact .silent hv
  | unreservable => exact .silent (Told.leads_record _ _ v hv)
  | failed | done => exact .silent (Told.leads_record _ _ _ (Told.leads_call _ v hv))
  | denied _ hs hanswer =>
    exact .used hs hanswer (Told.leads_record _ _ _ (Told.leads_note _ _ _ v hv))
  | used _ hs hanswer =>
    exact .used hs hanswer (Told.leads_record _ _ _ (Told.leads_note _ _ _ v hv))

/-! ## Tearing down -/

variable {ds : List Dealing}

/-- What is said to a session, if there is one, when its descriptor is about to be closed. -/
def lastWords (fd : Descriptor) (session : Option Tls.Session) : List Dealing :=
  (session.map fun s => ⟨fd, .shutdown, .ofUnit s.takeShutdown.1⟩).toList

/-- Parting with a group says nothing to a session. -/
lemma told_partGroup : Leads (u.Told ds) (h.partGroup fd) fun i w =>
    (∃ m, i = { h with membership := m }) ∧ u.Told ds w := by
  unfold partGroup
  split
  · cases hm : h.membership with
    | none => exact .pure _ fun _ hw => ⟨⟨h.membership, rfl⟩, hw⟩
    | some m =>
      refine .bind (Told.leads_within (made_leaveGroup _ _).only) fun _ => ?_
      exact .pure _ fun _ hw => ⟨⟨none, rfl⟩, hw⟩
  · exact .pure _ fun _ hw => ⟨⟨h.membership, rfl⟩, hw⟩

/-- Shutting a session down is saying the last words to it. -/
lemma told_shutSession (id : Nat) (s : Tls.Session) :
    Leads (u.Told ds) (shutSession id fd s) fun _ => u.Told (ds ++ lastWords fd (some s)) := by
  refine .bind (Told.leads_record _ _) fun _ => ?_
  refine .bind (R := fun _ => u.Told (ds ++ lastWords fd (some s)))
    (fun w hw => Told.leads_note _ _ _ w hw) fun _ => ?_
  split
  · exact .pure _ fun _ hw => hw
  · exact Told.leads_record _ _

/-- Parting with a session says the last words to it. -/
lemma told_partSession (he : h.session.isSome = true → h.flags.tls.enabled = true) :
    Leads (u.Told ds) (h.partSession fd) fun i w =>
      i.descriptor = h.descriptor ∧ u.Told (ds ++ lastWords fd h.session) w := by
  unfold partSession
  cases hs : h.session with
  | none =>
    have hnone : ds ++ lastWords fd none = ds := by simp [lastWords]
    rw [hnone]
    split <;> exact .pure h fun _ hw => ⟨rfl, hw⟩
  | some s =>
    rw [if_pos (he (by simp [hs]))]
    exact .bind (told_shutSession h.id s) fun _ => .pure _ fun _ hw => ⟨rfl, hw⟩

/-- Tearing down says the last words to the session. -/
lemma told_teardown (hfd : h.descriptor = some fd)
    (he : h.session.isSome = true → h.flags.tls.enabled = true) :
    Leads (u.Told ds) h.teardown fun p w =>
      p.2.descriptor = none ∧ u.Told (ds ++ lastWords fd h.session) w := by
  unfold teardown
  rw [hfd]
  refine .bind (told_partGroup (h := { h with descriptor := none })) fun i => .of_and ?_
  rintro ⟨m, rfl⟩
  refine .bind (told_partSession he) fun i => .of_and fun hgone => ?_
  have hclose : Only (Within [.close]) (closeDescriptor fd i) :=
    .bind (.record _ _) fun _ => (Net.made_require _ (.close fd) (List.mem_singleton.2 rfl)).only
  exact .bind (Told.leads_within hclose) fun _ => .pure _ fun _ hw => ⟨hgone, hw⟩

/-- **Dropping** a handle says the last words to its session.

**Proof sketch.** Tearing down says the last words (`told_teardown`), and a failure to close is
recorded behind them. -/
theorem told_drop (hfd : h.descriptor = some fd)
    (he : h.session.isSome = true → h.flags.tls.enabled = true) :
    Leads (u.Told ds) h.drop fun _ => u.Told (ds ++ lastWords fd h.session) := by
  unfold drop
  rw [hfd]
  refine .bind (told_teardown hfd he) fun p => .of_and fun _ => ?_
  obtain ⟨status, rest⟩ := p
  cases status with
  | ok _ => exact .pure _ fun _ hw => hw
  | error e => exact Told.leads_record _ _

/-- **Closing** a handle says the last words to its session.

**Proof sketch.** Tearing down says the last words (`told_teardown`), and what is dropped afterwards
has no descriptor any more. -/
theorem told_close (hfd : h.descriptor = some fd)
    (he : h.session.isSome = true → h.flags.tls.enabled = true) :
    Leads (u.Told ds) h.close fun _ => u.Told (ds ++ lastWords fd h.session) := by
  refine .bind (told_teardown hfd he) fun p => .of_and fun hp => ?_
  refine .bind (R := fun _ => u.Told (ds ++ lastWords fd h.session)) (fun w hw => ?_)
    fun _ => .pure _ fun _ hw => hw
  rw [drop_of_closed hp]
  exact hw

end Handle

end Sockets
