import Sockets.Proofs.Complaints
import Sockets.Proofs.Negotiation

/-!
# Names of peers

A handle gets a far address from the kernel, which names the peer of a descriptor when it is asked
who that is, and when a connection is accepted. This module says for the operations on a handle
which peers are named on the way, and that the handle has the far address that was named last: an
operation that is broken off before its peer is named leaves the far address, and so does everything
that does not ask.

## Main definitions

* `Sockets.World.Named` — the peers that were named on the way from one world to another.
* `Sockets.Handle.Aims` — a handle has the far address that was named last.
* `Sockets.Net.Aimed` — how an operation that opens a handle leaves its far address.

## Main results

* `Sockets.Handle.aims_refreshFar`, `Sockets.Handle.aims_reconnect` — operations on handles.
* `Sockets.Net.aimed_connect`, `Sockets.Net.aimed_bind`, `Sockets.Net.aimed_accept` — and the same
  with a builder.
-/

set_option autoImplicit false

namespace Sockets

open Event (Among Within)
open Net (Leads Only)

/-! ## Named peers -/

/-- The peer that an event names, and the descriptor that it is the peer of. -/
def Event.naming? : Event → Option (Descriptor × Address)
  | call (.getpeername fd) (.ok (a : Address)) => some (fd, a)
  | call (.accept _) (.ok (answer : Descriptor × Address)) => some answer
  | _ => none

/-- System calls of other kinds name no peer, nor does anything else. -/
lemma Event.Among.naming?_eq {kinds : List CallKind} {e : Event} (he : e.Among kinds)
    (hkinds : ∀ k ∈ kinds, k ∉ CallKind.naming) : e.naming? = none := by
  cases e with
  | tls | query | record | trace => rfl
  | call c outcome =>
    cases c with
    | getpeername fd => exact absurd (List.mem_cons_self ..) (hkinds _ he)
    | accept fd => exact absurd (List.mem_cons_of_mem _ (List.mem_cons_self ..)) (hkinds _ he)
    | _ => rfl

namespace World

variable {α : Type} {u v w : World} {as bs : List (Descriptor × Address)} {fd : Descriptor}

/-- The peers that were named on the way from one world to another. -/
def Named (u : World) (as : List (Descriptor × Address)) (w : World) : Prop :=
  ∃ es, w.journal = u.journal ++ es ∧ es.filterMap Event.naming? = as

namespace Named

/-- Nobody is named where nothing happens. -/
lemma of_journal_eq (h : w.journal = u.journal) : u.Named [] w := ⟨[], by simp [h], rfl⟩

/-- Who is named on one way after another. -/
lemma trans (huv : u.Named as v) (hvw : v.Named bs w) : u.Named (as ++ bs) w := by
  obtain ⟨es, hes, rfl⟩ := huv
  obtain ⟨es', hes', rfl⟩ := hvw
  exact ⟨es ++ es', by rw [hes', hes, List.append_assoc], List.filterMap_append⟩

/-- Where nobody is named on the second way. -/
lemma trans_nil (huv : u.Named as v) (hvw : v.Named [] w) : u.Named as w := by
  simpa using huv.trans hvw

/-- What was opened stays opened. -/
lemma opened_mem (h : u.Named as w) (hu : .opened ∈ u.life fd) : .opened ∈ w.life fd := by
  obtain ⟨es, hes, -⟩ := h
  rw [life, hes, List.filterMap_append]
  exact List.mem_append_left _ hu

/-- A system call names the peer that its event names. -/
lemma syscall (c : Call) (w : World) :
    w.Named (Event.call c (w.kernel.perform c).1).naming?.toList (Net.syscall c w).2 := by
  refine ⟨_, Net.syscall_journal c w, ?_⟩
  cases hnaming : (Event.call c (w.kernel.perform c).1).naming? <;>
    simp only [List.filterMap_cons, hnaming] <;> rfl

/-- Operations that do not ask name nobody. -/
lemma of_only {kinds : List CallKind} {x : Net α} (hx : Only (Among kinds) x)
    (hkinds : ∀ k ∈ kinds, k ∉ CallKind.naming) (w : World) : w.Named [] (x w).2 := by
  obtain ⟨es, hes, hin⟩ := (hx w).journal_eq
  exact ⟨es, hes, List.filterMap_eq_nil_iff.2 fun e he => (hin e he).naming?_eq hkinds⟩

/-- System calls that do not ask name nobody. -/
lemma of_within {kinds : List CallKind} {x : Net α} (hx : Only (Within kinds) x)
    (hkinds : ∀ k ∈ kinds, k ∉ CallKind.naming) (w : World) : w.Named [] (x w).2 :=
  .of_only (hx.mono fun _ he => he.among) hkinds w

end Named

end World

open World (Named Told)

/-! ## Operations on handles -/

namespace Handle

/-- **A handle aims** on the way from a world: it has the far address that was named last for its
descriptor on the way, or if none was, a given one; and no other peer was named. -/
structure Aims (u : World) (fd : Descriptor) (base : Option Address) (h : Handle) (w : World) :
    Prop where
  descriptor_eq : h.descriptor = some fd
  opened_mem : .opened ∈ w.life fd
  far_eq : ∃ as : List Address,
    u.Named (as.map (Prod.mk fd)) w ∧ h.far.address = as.getLast?.or base

variable {α : Type} {u : World} {fd : Descriptor} {base : Option Address} {g h : Handle}

namespace Aims

/-- A handle at the beginning of an operation. -/
lemma self {w : World} (hfd : h.descriptor = some fd) (hw : .opened ∈ w.life fd)
    (hu : u.Named [] w) (hfar : h.far.address = base) : Aims u fd base h w :=
  ⟨hfd, hw, [], hu, hfar⟩

/-- A handle that is another one in what has nothing to do with where it aims. -/
lemma congr {w : World} (hw : Aims u fd base h w) (hd : g.descriptor = h.descriptor)
    (hf : g.far.address = h.far.address) : Aims u fd base g w := by
  obtain ⟨as, has, hfar⟩ := hw.far_eq
  exact ⟨hd.trans hw.descriptor_eq, hw.opened_mem, as, has, hf.trans hfar⟩

/-- Where nobody is named a handle goes on aiming as it does. -/
lemma of_named {v w : World} (hv : Aims u fd base h v) (hw : v.Named [] w) :
    Aims u fd base h w := by
  obtain ⟨as, has, hfar⟩ := hv.far_eq
  exact ⟨hv.descriptor_eq, hw.opened_mem hv.opened_mem, as, has.trans_nil hw, hfar⟩

/-- Operations that do not ask leave a handle aiming as it does. -/
lemma leads_among {kinds : List CallKind} {x : Net α} (hx : Only (Among kinds) x)
    (hkinds : ∀ k ∈ kinds, k ∉ CallKind.naming) :
    Leads (Aims u fd base h) x fun _ => Aims u fd base h :=
  fun w hw => hw.of_named (.of_only hx hkinds w)

/-- System calls that do not ask leave a handle aiming as it does. -/
lemma leads_within {kinds : List CallKind} {x : Net α} (hx : Only (Within kinds) x)
    (hkinds : ∀ k ∈ kinds, k ∉ CallKind.naming) :
    Leads (Aims u fd base h) x fun _ => Aims u fd base h :=
  leads_among (hx.mono fun _ he => he.among) hkinds

/-- Records leave a handle aiming as it does. -/
lemma leads_record (level : Level) (message : String) :
    Leads (Aims u fd base h) (Net.record level message) fun _ => Aims u fd base h :=
  leads_within (.record _ _) (List.forall_mem_nil _)

/-- Where a handle aims is a frame. -/
lemma frame : Frame fd (Aims u fd base) where
  descriptor_eq _ _ hw := hw.descriptor_eq
  within _ hx hkinds := leads_within hx hkinds
  near _ _ _ hw := hw.congr rfl rfl
  group _ _ _ _ _ hw := hw.congr rfl rfl

end Aims

/-- **Asking for the far address** makes a handle aim at the peer that is named.

**Proof sketch.** The call names the peer in the journal before the handle stores it, so that in
between the handle that will have it is the one that aims there. A call that fails names nobody, and
nothing is stored. -/
lemma aims_refreshFar :
    Leads (Aims u fd base h) (refreshFar.on h) fun p => Aims u fd base p.2 := by
  refine .assuming (fun _ hw => hw.descriptor_eq) fun hfd => ?_
  -- A peer is named before it is stored; a call that fails names none.
  refine Act.leads_bind (R := fun p w => match p.1 with
    | .ok a => Aims u fd base { p.2 with far := .ofAddress a } w
    | .error _ => Aims u fd base p.2 w) (Act.leads_owned_bind hfd
    (Act.leads_ofNet_bind (R := fun r w => match r with
      | .ok (a : Address) => Aims u fd base { h with far := .ofAddress a } w
      | .error _ => Aims u fd base h w) (fun w hw => ?_) fun r => ?_))
    (fun a g => Act.leads_modify _ fun _ hw => hw) fun _ _ _ hw => hw
  · obtain ⟨as, has, hfar⟩ := hw.far_eq
    have hnamed := Named.syscall (.getpeername fd) w
    show match (w.kernel.perform (.getpeername fd)).1 with
      | .ok (a : Address) => Aims u fd base { h with far := .ofAddress a } _
      | .error _ => Aims u fd base h _
    cases hout : (w.kernel.perform (.getpeername fd)).1 with
    | error n =>
      rw [hout] at hnamed
      exact hw.of_named hnamed
    | ok a =>
      rw [hout] at hnamed
      refine ⟨hw.descriptor_eq, hnamed.opened_mem hw.opened_mem, as ++ [a], ?_, ?_⟩
      · rw [List.map_append]
        exact has.trans hnamed
      · rw [List.getLast?_concat]
        rfl
  · cases r with
    | ok a => exact Act.leads_pure _ fun _ hw => hw
    | error n =>
      exact Act.leads_record_bind (Aims.leads_record _ _) (Act.leads_throw _ fun _ hw => hw)

/-- **Connecting to another peer** makes a handle aim at it, once it is named. -/
theorem aims_reconnect (scope : Scope) (host service : String) :
    Leads (Aims u fd base h) ((reconnect scope host service).on h)
      fun p => Aims u fd base p.2 :=
  Aims.frame.leads_reconnect (fun _ => aims_refreshFar) scope host service

/-! ### Transfers -/

/-- System calls that move data name no peer. -/
lemma notMem_naming {k : CallKind} (hk : k.movesData = true) : k ∉ CallKind.naming := by
  cases k <;> first | decide | exact nomatch hk

/-- **A transfer** leaves where a handle aims.

**Proof sketch.** The calls that move data name no peer, a word to a session is no call, and records
are none either. What the session of a handle becomes has no part in where it aims. -/
lemma Goes.aims {side : Option SideData} {senseless : Prop} {v : World} {out : Transfer α × World}
    (hgoes : h.Goes fd v side senseless out) (hv : Aims u fd base h v) :
    Aims u fd base out.1.handle out.2 := by
  have hcall {c : Call} (hc : c.kind.movesData = true) : Aims u fd base h (Net.syscall c v).2 :=
    Aims.leads_within (.syscall c (List.mem_singleton_self _))
      (List.forall_mem_singleton.2 (notMem_naming hc)) v hv
  have hnote (c : TlsCall) (outcome : TlsOutcome) :
      Aims u fd base h (v.noting (.tls fd c outcome)) := by
    have honly : Only (Among []) (Net.note (.tls fd c outcome)) := .note rfl trivial
    exact hv.of_named (.of_only honly (List.forall_mem_nil _) v)
  cases hgoes with
  | refused => exact hv
  | unreservable => exact Aims.leads_record _ _ v hv
  | failed _ hc => exact Aims.leads_record _ _ _ (hcall hc)
  | done _ hc => exact Aims.leads_record _ _ _ (hcall hc)
  | denied => exact (Aims.leads_record _ _ _ (hnote _ _)).congr rfl rfl
  | used => exact (Aims.leads_record _ _ _ (hnote _ _)).congr rfl rfl

end Handle

/-! ## New handles -/

namespace Net

/-- **How an operation that opens a handle leaves its far address**: the handle has the one that was
named last for its new descriptor. If the operation fails, peers may have been named for a
descriptor that was opened on the way, but for no other. -/
def Aimed (u : World) : Except Error Handle → World → Prop
  | .ok h, w => ∃ fd, .opened ∉ u.life fd ∧ Handle.Aims u fd none h w
  | .error _, w => ∃ as, u.Named as w ∧ ∀ e ∈ as, u.Opens w e.1

variable {α : Type} {stray : Prop} {u : World} {H : Holdings} {fd : Descriptor} {scope : Scope}

/-- A descriptor that was opened on the way, and the peers that were named for it. -/
structure Fresh (u : World) (fd : Descriptor) (as : List Address) (w : World) : Prop where
  opens : u.Opens w fd
  named : u.Named (as.map (Prod.mk fd)) w

/-- Where nobody is named a descriptor stays as fresh as it is. -/
lemma Fresh.leads_among {kinds : List CallKind} {as : List Address} {x : Net α}
    (hx : Only (Among kinds) x) (hkinds : ∀ k ∈ kinds, k ∉ CallKind.naming) :
    Leads (Fresh u fd as) x fun _ => Fresh u fd as := fun w hw =>
  have hnamed := Named.of_only hx hkinds w
  ⟨⟨hw.opens.1, hnamed.opened_mem hw.opens.2⟩, hw.named.trans_nil hnamed⟩

/-- Where a fresh descriptor gets no handle. -/
lemma Fresh.aimed {as : List Address} {w : World} (hw : Fresh u fd as w) (e : Error) :
    Aimed u (.error e) w := by
  refine ⟨_, hw.named, fun e he => ?_⟩
  obtain ⟨a, -, rfl⟩ := List.mem_map.1 he
  exact hw.opens

/-- How an operation on a new handle leaves where it aims. -/
lemma aimed_settle {P : World → Prop} {h : Handle} {x : Handle.Act α}
    (hnew : .opened ∉ u.life fd) (hx : Leads P (x.on h) fun p => Handle.Aims u fd none p.2) :
    Leads P (h.settle x).run fun r => Aimed u (r.map Prod.snd) := by
  refine .settle hx (fun _ i w hw => ⟨fd, hnew, hw⟩) fun e i => ?_
  refine (Handle.Aims.leads_among (Handle.among_drop i) (by decide)).weaken (fun _ hw => hw)
    fun _ w hw => ?_
  obtain ⟨as, has, -⟩ := hw.far_eq
  exact Fresh.aimed ⟨⟨hnew, hw.opened_mem⟩, has⟩ e

/-- A handle is made on a fresh descriptor, and knows no far address yet. -/
lemma fresh_create (as : List Address) (p : Protocol) (flags : Flags)
    (session : Option Tls.Session) :
    Leads (Fresh u fd as) (Handle.create fd p flags session) fun h w =>
      (h.descriptor = some fd ∧ h.far.address = none) ∧ Fresh u fd as w :=
  fun _ hw => ⟨⟨rfl, rfl⟩, hw.opens, hw.named⟩

/-- A new handle of which no peer was named aims nowhere. -/
lemma Fresh.aims {h : Handle} {w : World} (hw : Fresh u fd [] w) (hfd : h.descriptor = some fd)
    (hfar : h.far.address = none) : Handle.Aims u fd none h w :=
  .self hfd hw.opens.2 hw.named hfar

/-- The way to a world on which nobody was named yet, and no descriptor opened that is still
open. -/
structure Unaimed (stray : Prop) (u : World) (H : Holdings) (w : World) : Prop where
  poised : u.Poised w
  books : Books stray w H
  named : u.Named [] w

/-- The beginning of the way. -/
lemma Unaimed.self (hu : Books stray u H) : Unaimed stray u H u :=
  ⟨⟨.refl, .of_journal_eq rfl⟩, hu, .of_journal_eq rfl⟩

/-- A descriptor that is opened by system calls is fresh, and no peer was named for it. -/
lemma fresh_of_opened {x : Attempt Error Descriptor} {kinds : List CallKind}
    (hu : Books stray u H) (hx : Only (Within kinds) x.run)
    (hk : CallKind.getsockname ∉ kinds ∧ CallKind.getpeername ∉ kinds)
    (hkinds : ∀ k ∈ kinds, k ∉ CallKind.naming)
    (hB : Leads (fun w => Books stray w H) x.run (Books.OrKept stray H fun fd w =>
      H fd = none ∧ Books stray w (Function.update H fd (some {})))) :
    Leads (Unaimed stray u H) x.run fun r w =>
      u.Named [] w ∧ ∀ fd, r = .ok fd → Fresh u fd [] w := by
  intro w hw
  have hnamed := hw.named.trans_nil (.of_only (hx.mono fun _ he => he.among) hkinds w)
  have hopened := World.Poised.leads_opened (f := id) hu hx hk hB w ⟨hw.poised, hw.books⟩
  exact ⟨hnamed, fun fd hr => ⟨hopened.2 fd hr, hnamed⟩⟩

/-- Where nobody was named and there is no handle. -/
lemma aimed_of_named {w : World} (hw : u.Named [] w) (e : Error) : Aimed u (.error e) w :=
  ⟨[], hw, List.forall_mem_nil _⟩

/-- **Connecting** makes a handle that aims at the peer that the kernel names.

**Proof sketch.** A descriptor that is opened is fresh, so nothing was named for it
(`fresh_of_opened`). Negotiating and making a handle name nobody, and the handle, which knows no
peer, aims at nothing; asking for its ends makes it aim at the peer (`aims_refreshFar`). -/
theorem aimed_connect (hu : Books stray u H) (host service : String) (p : Protocol)
    (flags : Flags) :
    Leads (Unaimed stray u H) (connect scope host service p flags).run (Aimed u) := by
  refine .run_bind (fresh_of_opened hu (Opening.made_connect scope host service p).only (by decide)
    (by decide) (Opening.leads_connect _ _ _ _)) (fun fd => ?_)
    fun e _ hw => aimed_of_named hw.1 e
  refine .run_bind (R := fun _ => Fresh u fd []) ((Fresh.leads_among (among_sessionFor fd _ _
    (among_negotiateClient _ _ _ _)) (by decide)).weaken (fun _ hw => hw.2 fd rfl)
    fun _ _ hw => hw) (fun session => ?_) fun e _ hw => hw.aimed e
  refine .run_lift_bind (fresh_create _ _ _ _) fun h => .of_and fun hh => ?_
  refine .assuming (fun _ hw => hw.opens.1) fun hnew => ?_
  refine .run_bind (aimed_settle hnew (.weaken (P := Handle.Aims u fd none h) ?_
    (fun _ hw => hw.aims hh.1 hh.2) fun _ _ hw => hw)) ?_ fun _ _ hw => hw
  · exact Handle.Aims.frame.leads_arrival fun _ => Handle.aims_refreshFar
  · rintro ⟨-, i⟩
    refine .of_exists fun fd => .of_and fun hnew => ?_
    exact .run_lift_bind (Handle.Aims.leads_record _ _) fun _ => .run_pure _ fun _ hw =>
      ⟨fd, hnew, hw⟩

/-- **Binding** makes a handle that aims at whoever was named.

**Proof sketch.** As for connecting (`aimed_connect`), without a negotiation and without a peer that
is asked for. -/
theorem aimed_bind (hu : Books stray u H) (host : Option String) (service : String) (p : Protocol)
    (flags : Flags) :
    Leads (Unaimed stray u H) (bind scope host service p flags).run (Aimed u) := by
  refine .run_bind (fresh_of_opened hu (Opening.made_bind scope host service p).only (by decide)
    (by decide) (Opening.leads_bind _ _ _ _)) (fun fd => ?_) fun e _ hw => aimed_of_named hw.1 e
  refine .run_lift_bind ((fresh_create [] _ _ _).weaken (fun _ hw => hw.2 fd rfl)
    fun _ _ hw => hw) fun h => .of_and fun hh => ?_
  refine .assuming (fun _ hw => hw.opens.1) fun hnew => ?_
  refine .run_bind (aimed_settle hnew (Handle.Aims.frame.leads_refreshNear.weaken
    (fun _ hw => hw.aims hh.1 hh.2) fun _ _ hw => hw)) ?_ fun _ _ hw => hw
  rintro ⟨-, i⟩
  refine .of_exists fun fd => .of_and fun hnew => ?_
  dsimp only
  exact .run_lift_bind (Handle.Aims.leads_record _ _) fun _ => .run_pure _ fun _ hw =>
    ⟨fd, hnew, hw.congr rfl rfl⟩

/-- A system call that has to succeed names the peer that its event names. -/
lemma named_require (context : String) (c : Call) :
    Leads (u.Named []) (require context c).run fun r w => match r with
      | .ok answer => u.Named (Event.call c (.ok answer)).naming?.toList w
      | .error _ => u.Named [] w := by
  refine .run_lift_bind (R := fun r => u.Named (Event.call c r).naming?.toList)
    (fun w hw => hw.trans (.syscall c w)) fun r => ?_
  cases r with
  | ok answer => exact .run_pure _ fun _ hw => hw
  | error n =>
    have hnobody : (Event.call c (.error n)).naming? = none := by cases c <;> rfl
    rw [hnobody]
    exact fun w hw => hw.trans_nil
      (.of_within (made_systemFailure _ _).only (List.forall_mem_nil _) w)

/-- A connection that is accepted is on a fresh descriptor, and its peer is named for it. -/
lemma fresh_accept (hu : Books stray u H) (waiting : Descriptor) :
    Leads (Unaimed stray u H) (require "accept" (.accept waiting)).run fun r w =>
      (∀ fd peer, r = .ok (fd, peer) → Fresh u fd [peer] w) ∧ ∀ e, r = .error e → u.Named [] w := by
  intro w hw
  have hcall : Only (Within [.accept]) (require "accept" (.accept waiting)).run :=
    (made_require _ (.accept waiting) (List.mem_singleton_self _)).only
  have hopened := World.Poised.leads_opened (f := Prod.fst) hu hcall (by decide)
    (Books.leads_require (Books.leads_accept waiting)) w ⟨hw.poised, hw.books⟩
  have hnamed := named_require "accept" (.accept waiting) w hw.named
  refine ⟨fun fd peer hr => ?_, fun e hr => ?_⟩ <;> rw [hr] at hnamed
  · exact ⟨hopened.2 _ hr, hnamed⟩
  · exact hnamed

/-- **Accepting** makes a handle that aims at the peer that the kernel names with it.

**Proof sketch.** The call names the peer together with the descriptor (`fresh_accept`), and the
handle stores it first of all. -/
theorem aimed_accept (hu : Books stray u H) (listener : Handle) :
    Leads (Unaimed stray u H) (accept scope listener).run (Aimed u) := by
  unfold accept
  split
  · exact .run_throw _ fun w hw => aimed_of_named hw.named _
  rename_i waiting _
  refine .run_bind (fresh_accept hu waiting) ?_ fun e _ hw => aimed_of_named (hw.2 e rfl) e
  rintro ⟨fd, peer⟩
  refine .run_bind (R := fun _ => Fresh u fd [peer]) ((Fresh.leads_among (among_sessionFor fd _ _
    (among_negotiateServer _ _)) (by decide)).weaken (fun _ hw => hw.1 fd peer rfl)
    fun _ _ hw => hw) (fun session => ?_) fun e _ hw => hw.aimed e
  refine .run_lift_bind (fresh_create _ _ _ _) fun h => .of_and fun hh => ?_
  refine .assuming (fun _ hw => hw.opens.1) fun hnew => ?_
  refine .run_bind (aimed_settle hnew ?_) ?_ fun _ _ hw => hw
  · exact Handle.Act.leads_modify_bind (Handle.Aims.frame.leads_refreshNear.weaken
      (fun _ hw => ⟨hh.1, hw.opens.2, [peer], hw.named, rfl⟩) fun _ _ hw => hw)
  · rintro ⟨-, i⟩
    refine .of_exists fun fd => .of_and fun hnew => ?_
    dsimp only
    exact .run_lift_bind (Handle.Aims.leads_record _ _) fun _ => .run_pure _ fun _ hw =>
      ⟨fd, hnew, hw.congr rfl (i.far.address_host)⟩

end Net

/-! ## Builders -/

namespace Builder

variable {stray : Prop} {u : World} {H : Holdings} (b : Builder)

/-- Tracing leaves everything that opening begins with. -/
lemma leads_unaimed_trace (what : String) :
    Leads (Net.Unaimed stray u H) (b.trace what) fun _ => Net.Unaimed stray u H := by
  intro w hw
  obtain ⟨hpoised, hbooks⟩ := b.leads_poised_trace what w ⟨hw.poised, hw.books⟩
  exact ⟨hpoised, hbooks,
    hw.named.trans_nil (.of_within (b.within_trace what) (List.forall_mem_nil _) w)⟩

/-- **Connecting with a builder** aims as connecting does. -/
theorem aimed_connect (hu : Books stray u H) (host service : String) :
    Leads (Net.Unaimed stray u H) (b.connect host service).run (Net.Aimed u) :=
  .run_lift_bind (b.leads_unaimed_trace _) fun _ => Net.aimed_connect hu _ _ _ _

/-- An operation on a handle that was just opened leaves where it aims. -/
lemma aimed_settle {α : Type} {h : Handle} {x : Handle.Act α} (hx : ∀ fd,
    Leads (Handle.Aims u fd none h) (x.on h) fun p => Handle.Aims u fd none p.2) :
    Leads (Net.Aimed u (.ok h)) (h.settle x).run fun r => Net.Aimed u (r.map Prod.snd) :=
  .of_exists fun fd => .of_and fun hnew => Net.aimed_settle hnew (hx fd)

/-- **Binding with a builder** aims as binding does.

**Proof sketch.** Binding makes a handle that aims (`Net.aimed_bind`), and joining a group
afterwards names no peer. -/
theorem aimed_bind (hu : Books stray u H) (host : Option String) (service : String) :
    Leads (Net.Unaimed stray u H) (b.bind host service).run (Net.Aimed u) := by
  refine .run_lift_bind (b.leads_unaimed_trace _) fun _ => ?_
  refine .run_bind (Net.aimed_bind hu _ _ _ _) (fun h => ?_) fun _ _ hw => hw
  cases b.group with
  | none => exact .run_pure h fun _ hw => hw
  | some c =>
    exact .run_bind (aimed_settle fun fd => Handle.Aims.frame.leads_joinChosen b c)
      (fun p => .run_pure p.2 fun _ hw => hw) fun _ _ hw => hw

/-- **Listening with a builder** aims as binding does. -/
theorem aimed_listen (hu : Books stray u H) (host service : String) :
    Leads (Net.Unaimed stray u H) (b.listen host service).run (Net.Aimed u) := by
  refine .run_bind (b.aimed_bind hu _ _) (fun h => ?_) fun _ _ hw => hw
  refine .run_bind (aimed_settle fun fd => Handle.Act.leads_ofAttempt
    (Handle.Aims.leads_within (Net.made_listen b.scope h).only (by decide)))
    (fun p => .run_pure p.2 fun _ hw => hw) fun _ _ hw => hw

end Builder

end Sockets
