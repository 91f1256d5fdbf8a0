import Sockets.Proofs.Complaints
import Sockets.Proofs.Memos
import Sockets.Proofs.Transfers

/-!
# Failures are heard

When a step fails, a complaint was made before its reply, unless the step made no sense. A transfer
that fails because waiting would be needed, or was in vain, is the exception: all that is done then
is the system call that failed and one record for debugging, which names it.

Nothing may be said of a step whose request cannot be made out: where a local socket is to be bound
without a path, where the text of a group is no address, and where an address is of no family that
has groups and destinations. Of the first of these nothing is ever said.

## Main definitions

* `Sockets.Handle.Murmured` — all that was done is that a call failed and a record for debugging
  said so.
* `Sockets.Step.Unclear` — steps whose request cannot be made out.
* `Sockets.Step.Demanding` — steps that transfer nothing and may make no sense.
* `Sockets.Run.Heard` — the failure of a step was heard.

## Main results

* `Sockets.Handle.Goes.murmured`, `Sockets.Handle.Goes.accounted` — transfers that fail murmur, or
  are accounted for.
* `Sockets.Run.outspoken_perform` — the failure of a step that transfers nothing is accounted for.
* `Sockets.Run.heard_of_failure` — however the library was used, the failure of a step is heard.
-/

set_option autoImplicit false

namespace Sockets

open Net (Only Vocal any_record)

variable {quiet senseless : Prop}

/-! ## Transfers -/

namespace Handle

variable {α : Type} {h : Handle} {fd : Descriptor} {v : World} {side : Option SideData}
  {out : Transfer α × World} {e : Error}

/-- All that was done on the way from one world to another is that a system call failed, and a
record for debugging named the handle and the call; the failure is told of. -/
def Murmured (h : Handle) (e : Error) (v w : World) : Prop :=
  ∃ (c : Call) (n : Int), e = .system c.kind.name (.os n) ∧
    w.journal = v.journal ++ [.call c (.error n),
      .record v.sink .debug (h.name ++ ": " ++ c.kind.name ++ ": " ++ (Fault.os n).message)]

/-- **A transfer that could not wait**, or waited in vain, murmurs.

**Proof sketch.** A transfer that was refused, that could have no buffer or that its session denied
did not wait. One that failed in a call made a record of that at the level for such failures. -/
theorem Goes.murmured (hgoes : h.Goes fd v side senseless out) (he : out.1.result = .error e)
    (ht : e.isTimeout = true) : h.Murmured e v out.2 := by
  cases hgoes with
  | refused | unreservable | denied =>
    cases he
    exact nomatch ht
  | @failed c n _ _ hout =>
    cases he
    refine ⟨c, n, rfl, ?_⟩
    show (Net.syscall c v).2.journal ++ [Event.record v.sink (failureLevel (.os n)) _] = _
    rw [Net.syscall_journal, hout, failureLevel,
      if_pos (show (Fault.os n).isTimeout = true from ht),
      List.append_assoc]
    rfl
  | done | used => exact nomatch he

/-- **Any other transfer that fails** is accounted for: it makes no sense, or complains.

**Proof sketch.** By how the transfer ended. A refusal makes no sense by itself; and for a missing
buffer, a call that failed and a session that failed there is a record, at the end of the journal,
that tells of it. -/
theorem Goes.accounted (hgoes : h.Goes fd v side senseless out) (he : out.1.result = .error e)
    (ht : e.isTimeout = false) : v.Accounted False senseless e out.2 := by
  cases hgoes with
  | refused operation hno =>
    cases he
    exact ⟨fun _ => hno, nofun⟩
  | unreservable length message =>
    cases he
    exact (v.complained_record (.inr rfl) message).accounted rfl
  | @failed c n _ _ hout =>
    cases he
    rw [failureLevel, if_neg (Bool.eq_false_iff.1 (show (Fault.os n).isTimeout = false from ht))]
    exact ((Net.any_syscall c v).complained (World.complained_record _ (.inl rfl) _)).accounted rfl
  | @denied s s' c e' _ _ _ message =>
    cases he
    have hnote : v.Onward Event.Any (v.noting (.tls fd c .failed)) :=
      .single (.event (.note _ rfl) trivial)
    exact (hnote.complained (World.complained_record _ (.inl rfl) message)).accounted rfl
  | done | used => exact nomatch he

end Handle

/-! ## Groups -/

/-- Leaving a group; one of no family that has groups may be refused quietly. -/
lemma Membership.vocal_leave (fd : Descriptor) {group : Address} (h : group.ip? = none → quiet) :
    Vocal quiet senseless (Membership.leave fd group) := by
  unfold Membership.leave
  split
  · exact .quiet_throw (h ‹_›) rfl
  · exact Net.vocal_require _ _
  · exact Net.vocal_require _ _

/-! ## Handles that are opened -/

namespace Net

variable {α : Type} {fd : Descriptor} {h : Handle}

/-- Whatever handle an operation makes owns a descriptor. -/
def Owning (x : Attempt Error Handle) : Prop :=
  ∀ w h, (x.run w).1 = .ok h → ∃ fd, h.descriptor = some fd

namespace Owning

/-- The handle is there. -/
lemma pure (hfd : h.descriptor = some fd) : Owning (Pure.pure h) := by
  rintro w _ ⟨⟩
  exact ⟨fd, hfd⟩

/-- One operation after another, which only some answers come to. -/
lemma bind_of {φ : α → Prop} {x : Attempt Error α} {f : α → Attempt Error Handle}
    (hyields : ∀ w a, (x.run w).1 = .ok a → φ a) (hf : ∀ a, φ a → Owning (f a)) :
    Owning (x >>= f) := by
  intro w h hh
  have hanswer := hyields w
  rw [run_bind_eq] at hh
  generalize x.run w = out at hanswer hh
  obtain ⟨e | a, v⟩ := out
  · exact nomatch hh
  · exact hf a (hanswer a rfl) v h hh

/-- One operation after another. -/
lemma bind {x : Attempt Error α} {f : α → Attempt Error Handle} (hf : ∀ a, Owning (f a)) :
    Owning (x >>= f) :=
  bind_of (φ := fun _ => True) (fun _ _ _ => trivial) fun a _ => hf a

/-- An operation on a new handle. -/
lemma create_bind {f : Handle → Attempt Error Handle} (p : Protocol) (flags : Flags)
    (session : Option Tls.Session) (hf : ∀ h, h.descriptor = some fd → Owning (f h)) :
    Owning ((liftM (Handle.create fd p flags session) : Attempt Error Handle) >>= f) := by
  intro w h hh
  obtain ⟨g, v, hg, -, hrun⟩ := create_bind_run f p flags session w
  rw [hrun] at hh
  exact hf g hg v h hh

/-- What follows an operation on a new handle. -/
lemma settle_bind {x : Handle.Act α} {f : α × Handle → Attempt Error Handle}
    (hfd : h.descriptor = some fd) (hx : x.Vocal fd True fun _ => True)
    (hf : ∀ p, p.2.descriptor = some fd → Owning (f p)) : Owning (h.settle x >>= f) := by
  intro w k hk
  rw [run_bind_eq] at hk
  obtain ⟨a, g, v, hon, hrun⟩ | ⟨e, g, v, -, hrun⟩ := settle_cases h x w <;> rw [hrun] at hk
  · have hkeeps := hx.keeps h w hfd
    rw [hon] at hkeeps
    exact hf (a, g) hkeeps v k hk
  · exact nomatch hk

end Owning

/-- A bound handle owns its descriptor. -/
lemma owning_bind (scope : Scope) (host : Option String) (service : String) (p : Protocol)
    (flags : Flags) : Owning (bind scope host service p flags) :=
  .bind fun _ => .create_bind _ _ _ fun _ hfd =>
    .settle_bind hfd Handle.vocal_refreshNear fun _ hp => .bind fun _ => .pure hp

end Net

/-! ## Builders -/

/-- A builder is to join a group whose text is no address. -/
def Builder.GroupUnclear (b : Builder) : Prop :=
  ∃ c ∈ b.group, (Address.ofText c.group 0).isOk = false

namespace Builder

variable {b : Builder} {fd : Descriptor}

/-- Tracing. -/
lemma any_trace (b : Builder) (what : String) : Only Event.Any (b.trace what) := by
  unfold trace
  split
  · exact .note rfl trivial
  · exact .pure _

/-- Joining the group that was asked for; a text that is no address may be refused quietly. -/
lemma vocal_joinChosen {c : GroupChoice} (hc : (Address.ofText c.group 0).isOk = false → quiet) :
    (b.joinChosen c).Vocal fd quiet fun _ => True := by
  unfold joinChosen
  cases hgroup : Address.ofText c.group 0 with
  | error e => exact .quiet_throw (fun _ => hc (by rw [hgroup]; rfl)) fun _ _ => trivial
  | ok group =>
    exact .bind ((Handle.vocal_joinGroup _ _).weaken fun _ _ => trivial) fun _ =>
      .ofNet (b.any_trace _)

/-- A bound handle owns its descriptor. -/
lemma owning_bind (host : Option String) (service : String) :
    Net.Owning (b.bind host service) := by
  refine .bind fun _ => .bind_of (Net.owning_bind _ _ _ _ _) ?_
  rintro h ⟨fd, hfd⟩
  cases hgroup : b.group with
  | none => exact .pure hfd
  | some c => exact .settle_bind hfd (vocal_joinChosen fun _ => trivial) fun _ hp => .pure hp

/-- Binding, in the group that was asked for. -/
lemma vocal_bind (hb : b.GroupUnclear → quiet) {host : Option String}
    (hhost : b.protocol = .unix → host = none → quiet) (service : String) :
    Vocal quiet (b.group ≠ none) (b.bind host service) := by
  refine .lift_bind (b.any_trace _) fun _ => ?_
  refine .bind_of (Net.vocal_bind _ _ _ _ _ hhost) (Net.owning_bind _ _ _ _ _) ?_
  rintro h ⟨fd, hfd⟩
  cases hgroup : b.group with
  | none => exact .pure h
  | some c =>
    refine .bind (Net.vocal_settle hfd ?_) fun _ => .pure _
    exact (vocal_joinChosen fun hc => hb ⟨c, hgroup, hc⟩).weaken fun _ _ => nofun

/-- A handle that waits for connections, in the group that was asked for. -/
lemma vocal_listen (hb : b.GroupUnclear → quiet) (host service : String) :
    Vocal quiet (b.group ≠ none) (b.listen host service) := by
  refine .bind_of (vocal_bind hb (fun _ hnone => absurd hnone (Option.some_ne_none host)) service)
    (owning_bind (some host) service) ?_
  rintro h ⟨fd, hfd⟩
  exact .bind (Net.vocal_settle hfd (.ofAttempt (Net.vocal_listen _ hfd))) fun _ => .pure _

end Builder

/-! ## Failures of steps -/

/-- The failure in a result. -/
def failure? {α : Type} : Except Error α → Option Error
  | .ok _ => none
  | .error e => some e

/-- A result with a failure in it is that failure. -/
lemma failure?_eq_some {α : Type} {r : Except Error α} {e : Error} :
    failure? r = some e ↔ r = .error e := by
  cases r <;> simp [failure?]

namespace Reply

/-- The failure that a reply tells of. -/
def failure? : Reply → Option Error
  | failed e => some e
  | ended result => Sockets.failure? result
  | filled result _ => Sockets.failure? result
  | received result _ => Sockets.failure? result
  | sent result => Sockets.failure? result
  | joined result => Sockets.failure? result
  | unknownName | opened | paired _ | dropped | info _ | told _ | compared .. | nothing => none

end Reply

namespace Step

/-- What a step asks for cannot be made out: a local socket is to be bound without a path, the text
of a group is no address, or an address is of no family that has groups and destinations. -/
def Unclear : Step → Prop
  | bind _ _ host _ p _ => p = .unix ∧ host = none
  | build _ b (.bind host _) => b.protocol = .unix ∧ host = none ∨ b.GroupUnclear
  | build _ b (.listen ..) => b.GroupUnclear
  | setDestination _ a | leaveRaw _ a => a.ip? = none
  | _ => False

/-- A step may make no sense though it transfers nothing: it changes a handle, or a builder has its
new handle join a group. -/
def Demanding : Step → Prop
  | reconnect .. | setDestination .. | joinGroup .. => True
  | build _ b _ => b.group ≠ none
  | _ => False

/-- The name of the handle on which a step transfers data, if that is what it does. -/
def transfers? : Step → Option String
  | read name .. | readVec name .. | write name .. => some name
  | _ => none

end Step

namespace Run

/-- **The failure of a step is heard**: on the way from one world to another a complaint was made,
unless the step made no sense. Where a transfer could not wait, or waited in vain, there was the
system call that failed and a record for debugging instead, and nothing else. -/
structure Heard (t : Table) (s : Step) (e : Error) (v w : World) : Prop where
  complaint : e.isMisuse = false → s.transfers? = none ∨ e.isTimeout = false → v.Complained w
  murmur : ∀ name, s.transfers? = some name → e.isTimeout = true →
    ∃ h, t.get? name = some h ∧ h.Murmured e v w

/-- **A part of a step is outspoken**: when it fails, that is accounted for. -/
def Outspoken (quiet senseless : Prop) (y : Net (Reply × Table)) : Prop :=
  ∀ w e, (y w).1.1.failure? = some e → w.Accounted quiet senseless e (y w).2

variable {α : Type} {t : Table} {h : Handle} {fd : Descriptor} {name : String}

namespace Outspoken

/-- A part that does not fail. -/
lemma of_none {y : Net (Reply × Table)} (hy : ∀ w, (y w).1.1.failure? = none) :
    Outspoken quiet senseless y :=
  fun w _ he => nomatch (hy w).symm.trans he

/-- An operation whose failure is told as it is.

**Proof sketch.** The reply tells a failure just where the operation failed, and nothing is done
after it then. -/
lemma of_run {x : Attempt Error α} {f : Except Error α → Net (Reply × Table)}
    (hx : Vocal quiet senseless x)
    (hok : ∀ a w, (f (.ok a) w).1.1.failure? = none)
    (herror : ∀ e w, (f (.error e) w).1.1.failure? = some e ∧ (f (.error e) w).2 = w) :
    Outspoken quiet senseless (x.run >>= f) := by
  intro w e he
  have hheard := hx.heard w
  have hrun : (x.run >>= f) w = f (x.run w).1 (x.run w).2 := rfl
  rw [hrun] at he ⊢
  generalize x.run w = out at hheard he ⊢
  obtain ⟨e' | a, v⟩ := out
  · obtain ⟨htold, hstays⟩ := herror e' v
    obtain rfl : e' = e := Option.some.inj (htold.symm.trans he)
    rw [hstays]
    exact hheard e' rfl
  · exact nomatch (hok a v).symm.trans he

/-- Opening a handle. -/
lemma openAs {x : Attempt Error Handle} (hx : Vocal quiet senseless x) :
    Outspoken quiet senseless (Run.openAs t name x) :=
  .of_run hx (fun _ _ => rfl) fun _ _ => ⟨rfl, rfl⟩

/-- Opening two handles. -/
lemma openPair (t : Table) (first second : String) :
    Outspoken quiet senseless (Run.openPair t first second) :=
  .of_run Net.vocal_socketpair (fun _ _ => rfl) fun _ _ => ⟨rfl, rfl⟩

/-- An operation whose result is told as it is. -/
lemma result {x : Attempt Error α} (hx : Vocal quiet senseless x) {reply : Except Error α → Reply}
    (hreply : ∀ r, (reply r).failure? = failure? r) :
    Outspoken quiet senseless (do let r ← x.run; pure (reply r, t)) :=
  .of_run hx (fun a _ => hreply (.ok a)) fun e _ => ⟨hreply (.error e), rfl⟩

/-- A change of a handle. -/
lemma change {senseless : Handle → Prop} {x : Handle.Act Unit} (hfd : h.descriptor = some fd)
    (hx : x.Vocal fd quiet senseless) : Outspoken quiet True (Run.change t name h x) :=
  fun w e he => (hx.weaken fun _ _ => trivial).heard h w e hfd (failure?_eq_some.1 he)

/-- A part on the handle of a name, which owns a descriptor. -/
lemma onHandle {f : Handle → Net (Reply × Table)}
    (ht : ∀ name h, t.get? name = some h → ∃ fd, h.descriptor = some fd)
    (hf : ∀ h fd, h.descriptor = some fd → Outspoken quiet senseless (f h)) :
    Outspoken quiet senseless (Run.onHandle t name f) := by
  unfold Run.onHandle
  cases hget : t.get? name with
  | none => exact .of_none fun _ => rfl
  | some h =>
    obtain ⟨fd, hfd⟩ := ht name h hget
    exact hf h fd hfd

end Outspoken

/-- The last step of a builder. -/
lemma vocal_lastStep (as : String) (b : Builder) (last : BuilderEnd) :
    Vocal (Step.build as b last).Unclear (b.group ≠ none) (lastStep b last) := by
  cases last with
  | connect host service =>
    exact .lift_bind (b.any_trace _) fun _ => Net.vocal_connect _ _ _ _ _
  | bind host service =>
    exact Builder.vocal_bind .inr (fun hp hhost => .inl ⟨hp, hhost⟩) service
  | listen host service => exact Builder.vocal_listen id host service

/-- What is done to a descriptor that is there. -/
lemma vocal_onDescriptor {f : Descriptor → Attempt Error α} (hfd : h.descriptor = some fd)
    (hf : Vocal quiet senseless (f fd)) : Vocal quiet senseless (.mk (onDescriptor h f)) := by
  unfold onDescriptor
  rw [hfd]
  exact hf

/-- **A step that transfers no data is outspoken.** It may keep quiet if its request cannot be made
out, and it may make no sense if it changes a handle, or has a new one join a group.

**Proof sketch.** One case for each step that transfers no data. Those that open a handle are vocal
whatever comes of storing it, those on a handle are vocal on its descriptor, which it has (`ht`),
and the others do not fail. -/
theorem outspoken_perform (ht : ∀ name h, t.get? name = some h → ∃ fd, h.descriptor = some fd)
    {s : Step} (hnone : s.transfers? = none) : Outspoken s.Unclear s.Demanding (perform t s) := by
  cases s with
  | connect as scope host service p flags => exact .openAs (Net.vocal_connect _ _ _ _ _)
  | bind as scope host service p flags =>
    exact .openAs (Net.vocal_bind _ _ _ _ _ fun hp hhost => ⟨hp, hhost⟩)
  | build as b last => exact .openAs (vocal_lastStep as b last)
  | accept as scope name => exact .onHandle ht fun h fd hfd => .openAs (Net.vocal_accept _ hfd)
  | socketpair first second => exact .openPair t first second
  | reconnect name scope host service =>
    exact .onHandle ht fun h fd hfd => .change hfd (Handle.vocal_reconnect _ _ _)
  | setDestination name a =>
    exact .onHandle ht fun h fd hfd => .change hfd (Handle.vocal_setDestination id)
  | joinGroup name group interface =>
    exact .onHandle ht fun h fd hfd => .change hfd (Handle.vocal_joinGroup _ _)
  | listen name scope =>
    exact .onHandle ht fun h fd hfd => .result (Net.vocal_listen scope hfd) fun _ => rfl
  | close name => exact .onHandle ht fun h fd hfd => .result (Handle.vocal_close hfd) fun _ => rfl
  | joinRaw name group interface =>
    exact .onHandle ht fun h fd hfd =>
      .result (vocal_onDescriptor hfd (Membership.vocal_join _ _ _)) fun _ => rfl
  | leaveRaw name group =>
    exact .onHandle ht fun h fd hfd =>
      .result (vocal_onDescriptor hfd (Membership.vocal_leave _ id)) fun _ => rfl
  | compare first second =>
    exact .onHandle ht fun _ _ _ => .onHandle ht fun _ _ _ => .of_none fun _ => rfl
  | drop name | info name | tell name q | feed name item | finish name =>
    exact .onHandle ht fun _ _ _ => .of_none fun _ => rfl
  | script s => exact .of_none fun _ => rfl
  | read name buffer side flags | readVec name length side flags | write name data side flags =>
    exact nomatch hnone

/-- A step that transfers data is heard.

**Proof sketch.** The handle is found, as the step failed for another reason than that. The transfer
went in one of the ways that it can go: if it waited in vain it murmurs (`Goes.murmured`), and
otherwise it is accounted for (`Goes.accounted`). -/
lemma heard_transfer (ht : ∀ name h, t.get? name = some h → ∃ fd, h.descriptor = some fd)
    {s : Step} (hs : s.transfers? = some name) {x : Handle → Net (Transfer α)}
    {reply : Transfer α → Reply}
    (hx : ∀ (h : Handle) (fd : Descriptor), h.descriptor = some fd → h.Transfers fd (x h))
    (hreply : ∀ d, (reply d).failure? = failure? d.result)
    (hperform : perform t s = onHandle t name fun h => transfer t name (x h) reply) {v : World}
    {e : Error} (he : (perform t s v).1.1.failure? = some e) :
    Heard t s e v (perform t s v).2 := by
  rw [hperform, onHandle] at he ⊢
  cases hget : t.get? name with
  | none =>
    rw [hget] at he
    cases he
  | some h =>
    rw [hget] at he
    obtain ⟨fd, hfd⟩ := ht name h hget
    obtain ⟨side, senseless, hgoes⟩ := hx h fd hfd v
    have hfailed : (x h v).1.result = .error e := failure?_eq_some.1 ((hreply _).symm.trans he)
    refine ⟨fun hmisuse hkind => ?_, fun name' hname' hwait => ?_⟩
    · have hwait : e.isTimeout = false := hkind.resolve_left (by simp [hs])
      exact ((hgoes.accounted hfailed hwait).complaint hmisuse).resolve_left id
    · obtain rfl : name = name' := Option.some.inj (hs.symm.trans hname')
      exact ⟨h, hget, hgoes.murmured hfailed hwait⟩

/-- **Failures are heard** where every handle owns a descriptor, of steps that can be made out.

**Proof sketch.** A step that transfers no data is outspoken (`outspoken_perform`), and the three
that transfer data are heard by way of what they transfer (`heard_transfer`). -/
theorem heard_perform (ht : ∀ name h, t.get? name = some h → ∃ fd, h.descriptor = some fd)
    {s : Step} (hs : ¬ s.Unclear) {v : World} {e : Error}
    (he : (perform t s v).1.1.failure? = some e) : Heard t s e v (perform t s v).2 := by
  cases hkind : s.transfers? with
  | none =>
    refine ⟨fun hmisuse _ => ?_, fun name hname => nomatch hkind.symm.trans hname⟩
    exact ((outspoken_perform ht hkind v e he).complaint hmisuse).resolve_left hs
  | some name =>
    cases s with
    | read n buffer side flags =>
      exact heard_transfer ht hkind (fun h _ hfd => Handle.transfers_read hfd buffer side flags)
        (fun _ => rfl) (by cases hkind; rfl) he
    | readVec n length side flags =>
      exact heard_transfer ht hkind (fun h _ hfd => Handle.transfers_readVec hfd length side flags)
        (fun _ => rfl) (by cases hkind; rfl) he
    | write n data side flags =>
      exact heard_transfer ht hkind (fun h _ hfd => Handle.transfers_write hfd data side flags)
        (fun _ => rfl) (by cases hkind; rfl) he
    | _ => exact nomatch hkind

/-- **Failures are heard.** However the library was used before, and whatever it is done in: where a
step that can be made out fails, a complaint was made, or the step made no sense, or it was a
transfer that could not wait, of which a record for debugging names the call.

**Proof sketch.** Every handle of a run owns a descriptor (`held_steps`), which is all that hearing
failures takes (`heard_perform`). -/
theorem heard_of_failure (w : World) (ss : List Step) (s : Step) (hs : ¬ s.Unclear) (v : World)
    (e : Error) (he : (perform ((start w).steps ss).table s v).1.1.failure? = some e) :
    Heard ((start w).steps ss).table s e v (perform ((start w).steps ss).table s v).2 :=
  heard_perform (fun _ _ hget =>
    ((held_steps w ss).2 _ (Table.mem_of_get?_eq_some hget)).imp fun _ h => h.1) hs he

/-- A read that could not wait is heard. -/
theorem heard_of_failed_read :
    ∃ (ss : List Step) (s : Step) (v : World) (e : Error), ¬ s.Unclear ∧ e.isTimeout = true ∧
      (perform ((start {}).steps ss).table s v).1.1.failure? = some e ∧
      Heard ((start {}).steps ss).table s e v (perform ((start {}).steps ss).table s v).2 :=
  ⟨[.bind "a" .own (some "127.0.0.1") "5000" .tcp {}], .read "a" (Handle.zeroed 16) none .empty,
    { kernel := { faults := Kernel.moreFaults (fun _ => []) [(.recv, [11])] } },
    .system "recv" (.os 11), id, rfl, by decide +kernel,
    heard_of_failure {} _ _ id _ _ (by decide +kernel)⟩

/-- Where a local socket is to be bound and no path is given, nothing at all is done, and so that
failure is not heard. -/
theorem not_every_failure_is_heard :
    ∃ (s : Step) (e : Error), (perform [] s {}).1.1.failure? = some e ∧ e.isMisuse = false ∧
      s.transfers? = none ∧ ¬ World.Complained {} (perform [] s {}).2 := by
  refine ⟨.bind "a" .own none "1" .unix {}, .address (.noName ""), rfl, rfl, rfl, ?_⟩
  rintro ⟨es, hes, e, he, -⟩
  obtain rfl : es = [] := List.self_eq_append_right.1 hes
  exact nomatch he

end Run

end Sockets
