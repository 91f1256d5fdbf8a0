import Sockets.Proofs.Advance
import Sockets.Proofs.Channels
import Sockets.Proofs.FaultScripts
import Sockets.Proofs.PlainTransfers
import Sockets.Proofs.Reconnection

/-!
# The exchange between the handles of a pair

The two handles of a pair are connected with each other, and messages go both ways. Whatever is
written and read at the two ends, by turns and in any order, and whichever of the system calls fail,
the exchange is that of two channels of messages, one each way, which know nothing of each other: in
each of them messages are read in the order they were written in, one for each read, and none is
lost or read twice.

## Main definitions

* `Sockets.Pair.Turn` — what is done with the handle at an end.
* `Sockets.Pair.turns` — turns at the two ends of a pair, and what comes of them.
* `Sockets.Kernel.Paired` — two descriptors are connected in a kernel, with messages pending.
* `Sockets.Pair.Exchanged` — what turns at the two ends of a pair come to.

## Main results

* `Sockets.Pair.done_turn` — a turn is a request to one of two channels.
* `Sockets.Run.exchanged_pair` — so are all turns at the ends of a pair that was made in a run.
-/

set_option autoImplicit false

namespace Sockets

open Channel
open Net (Leads)

/-! ## Turns -/

/-- The two handles of a pair. -/
structure Pair where
  first : Handle
  second : Handle

namespace Pair

/-- The handle at an end. -/
def handle (p : Pair) : End → Handle
  | .first => p.first
  | .second => p.second

/-- The pair with another handle at an end. -/
def withHandle (p : Pair) (e : End) (h : Handle) : Pair :=
  match e with
  | .first => { p with first := h }
  | .second => { p with second := h }

/-- The pair with the handle that it has. -/
lemma withHandle_handle (p : Pair) (e : End) : p.withHandle e (p.handle e) = p := by
  cases e <;> rfl

/-- What is done with the handle at an end. -/
inductive Turn where
  | write (data : Bytes) (side : Option SideData) (flags : MessageFlags)
  | read (buffer : Bytes) (side : Option SideData) (flags : MessageFlags)
  | readVec (length : Nat) (side : Option SideData) (flags : MessageFlags)

/-- What a turn wants of a channel. -/
def Turn.action : Turn → Action
  | write data .. => .put data
  | read buffer _ flags => .get buffer.length flags.peeks flags.truncates
  | readVec length _ flags => .get length flags.peeks false

/-- Whether a turn asks for the whole length of a message. -/
def Turn.truncates : Turn → Bool
  | write .. => false
  | read _ _ flags | readVec _ _ flags => flags.truncates

/-- Why a turn cannot succeed, whatever is pending: the system call is due to fail, or there is no
memory for the buffer. -/
def Turn.hindrance (t : Turn) (w : World) : Option Error :=
  match t with
  | write .. => (w.kernel.due .send).map fun n => .system "send" (.os n)
  | read .. => (w.kernel.due .recv).map fun n => .system "recv" (.os n)
  | readVec length .. =>
    if w.reservable length then (w.kernel.due .recv).map fun n => .system "recv" (.os n)
    else some (.allocation length)

/-- What was read into a buffer, as what comes of a request. -/
def replyOf (r : Reading) : Channel.Reply := .octets r.count r.octets

/-- What was read, as what comes of a request that asks for no more. -/
def replyOfOctets (bs : Bytes) : Channel.Reply := .octets bs.length bs

/-- A turn with the handle at an end: what came of it, and the pair after it. -/
def turn (p : Pair) (e : End) (t : Turn) : Net (Deal × Pair) := do
  let request : Channel.Request := ⟨e, t.action, t.hindrance (← get)⟩
  match t with
  | .write data side flags =>
    let out ← (p.handle e).write data side flags
    pure (⟨request, out.result.map .count⟩, p.withHandle e out.handle)
  | .read buffer side flags =>
    let out ← (p.handle e).read buffer side flags
    pure (⟨request, out.result.map replyOf⟩, p.withHandle e out.handle)
  | .readVec length side flags =>
    let out ← (p.handle e).readVec length side flags
    pure (⟨request, out.result.map replyOfOctets⟩, p.withHandle e out.handle)

/-- Turns at the two ends of a pair, one after the other. -/
def turns (p : Pair) : List (End × Turn) → Net (List Deal × Pair)
  | [] => pure ([], p)
  | (e, t) :: ts => do
    let (d, p) ← p.turn e t
    let (ds, p) ← p.turns ts
    pure (d :: ds, p)

end Pair

/-! ## Connected descriptors -/

namespace Kernel

variable {k : Kernel} {fds : End → Descriptor} {pending : End → List Bytes}

/-- Two descriptors are connected, and messages of each wait at the other one; no call is to move
less than it might. -/
structure Paired (k : Kernel) (fds : End → Descriptor) (pending : End → List Bytes) : Prop where
  unshortened : k.Unshortened
  ne : fds .first ≠ fds .second
  linked : ∀ e, ∃ s, k.socket? (fds e) = some s ∧ s.type = .dgram ∧ s.ended = false ∧
    s.twin = some (fds e.other) ∧ s.queue.map Item.data = pending e.other

/-- Different ends are on different descriptors. -/
lemma Paired.fds_ne (h : k.Paired fds pending) {e e' : End} (he : e ≠ e') : fds e ≠ fds e' := by
  cases e <;> cases e'
  · exact absurd rfl he
  · exact h.ne
  · exact h.ne.symm
  · exact absurd rfl he

/-- The socket of a descriptor, where that of another one may have been changed.

**Proof sketch.** By induction on the sockets, of which the first with the number is looked up.
Changing one leaves the numbers. -/
lemma socket?_modify (k : Kernel) (fd : Descriptor) (f : Socket → Socket) (n : Descriptor) :
    (k.modify fd f).socket? n = if n = fd then (k.socket? n).map f else k.socket? n := by
  unfold socket? modify
  dsimp only
  induction k.sockets with
  | nil => simp
  | cons p sockets ih =>
    obtain ⟨m, s⟩ := p
    have hpair : (if m = fd then (m, f s) else (m, s)) = (m, if m = fd then f s else s) := by
      split <;> rfl
    rw [List.map_cons, hpair, List.lookup_cons, List.lookup_cons, ih]
    by_cases hn : n = m
    · subst hn
      by_cases hfd : n = fd <;> simp [hfd]
    · simp only [beq_false_of_ne hn]

/-- Taking a fault off the script leaves the connection. -/
lemma Paired.takeFault (h : k.Paired fds pending) (kind : CallKind) :
    (k.takeFault kind).2.Paired fds pending := by
  refine ⟨h.unshortened.takeFault kind, h.ne, fun e => ?_⟩
  rw [socket?, (k.takeFault_snd kind).1]
  exact h.linked e

/-- Where what waits at a descriptor changes, only that does.

**Proof sketch.** The socket at the end is changed in its queue only (`hf`). At the other end
nothing changes, as the two descriptors are different (`fds_ne`). -/
lemma Paired.modify (h : k.Paired fds pending) {e : End} {f : Socket → Socket} {queue : List Bytes}
    (hf : ∀ s, k.socket? (fds e) = some s → (f s).type = s.type ∧ (f s).ended = s.ended ∧
      (f s).twin = s.twin ∧ (f s).queue.map Item.data = queue) :
    (k.modify (fds e) f).Paired fds (Function.update pending e.other queue) := by
  refine ⟨h.unshortened, h.ne, fun e' => ?_⟩
  obtain ⟨s, hs, htype, hended, htwin, hqueue⟩ := h.linked e'
  rw [socket?_modify]
  by_cases he : e' = e
  · subst he
    obtain ⟨htype', hended', htwin', hqueue'⟩ := hf s hs
    refine ⟨f s, by rw [if_pos rfl, hs, Option.map_some], htype'.trans htype,
      hended'.trans hended, htwin'.trans htwin, ?_⟩
    rw [hqueue', Function.update_self]
  · have hfds : fds e' ≠ fds e := h.fds_ne he
    have hother : e'.other ≠ e.other := fun ho => he (End.other_injective ho)
    exact ⟨s, by rw [if_neg hfds, hs], htype, hended, htwin, by
      rw [hqueue, Function.update_of_ne hother]⟩

/-- What has come of a call, as what comes of a request. -/
def replied {α : Type} (name : String) (reply : α → Channel.Reply) (outcome : Except Int α) :
    Except Error Channel.Reply :=
  (outcome.mapError fun n => .system name (.os n)).map reply

/-- Receivers of datagrams who ask for the whole length of one are told that, and get the octets
that there is room for. -/
def TellsWhole (k : Kernel) : Prop :=
  ∀ s length data, s.type = .dgram → k.whole s length data = ⟨data.length, data.take length⟩

/-- What a receiver of a datagram gets. -/
lemma deliver_dgram {s : Socket} {flags : MessageFlags} (hs : s.type = .dgram)
    (hwhole : flags.truncates = true → k.TellsWhole) (length : Nat) (data : Bytes) :
    k.deliver s length flags data = ⟨told length flags.truncates data, data.take length⟩ := by
  unfold deliver told
  cases htruncates : flags.truncates with
  | true => exact hwhole htruncates s length data hs
  | false => rfl

/-- Receiving at an end is a request to the channel from the other one.

**Proof sketch.** By the queue at the end. If it is empty the kernel would block, as the channel
does, and keeps the queue. If a message is there, the kernel hands on what of it fits and how long
it is told to be, and keeps the message for a peek only. -/
lemma Paired.receive (h : k.Paired fds pending) (e : End) (length : Nat) (flags : MessageFlags)
    (hwhole : flags.truncates = true → k.TellsWhole) {reply : Received → Channel.Reply}
    {whole : Bool} (hreply : ∀ m, reply ⟨told length flags.truncates m, m.take length⟩ =
      .octets (told length whole m) (m.take length))
    {r : Channel.Request} (hr : r = ⟨e, .get length flags.peeks whole, none⟩) :
    replied "recv" (fun got => reply got.1) (k.receive (fds e) length flags none).1 =
        (r.answer (pending r.source)).1 ∧
      (k.receive (fds e) length flags none).2.Paired fds (r.leaves pending) := by
  subst hr
  dsimp only [Channel.Request.leaves, Channel.Request.source]
  obtain ⟨s, hs, htype, hended, -, hqueue⟩ := h.linked e
  have hstream : s.type ≠ .stream := by rw [htype]; decide
  rw [← hqueue, Kernel.receive, hs]
  dsimp only [limited]
  cases hitems : s.queue with
  | nil =>
    have htake : k.take s length flags = (.error 11, s) := by simp [take, hitems, hended]
    rw [htake]
    refine ⟨rfl, h.modify fun t ht => ?_⟩
    obtain rfl := Option.some.inj (hs.symm.trans ht)
    exact ⟨rfl, rfl, rfl, by rw [hitems]; rfl⟩
  | cons item items =>
    have htake : k.take s length flags =
        (.ok (⟨told length flags.truncates item.data, item.data.take length⟩, item),
          { s with queue := if flags.peeks then item :: items else items }) := by
      simp [take, hitems, hstream, deliver_dgram htype hwhole]
    rw [htake]
    refine ⟨?_, h.modify fun t ht => ?_⟩
    · exact congrArg Except.ok (hreply item.data)
    · obtain rfl := Option.some.inj (hs.symm.trans ht)
      refine ⟨rfl, rfl, rfl, ?_⟩
      cases flags.peeks <;> rfl

/-- Sending at an end is a request to the channel from there.

**Proof sketch.** The socket knows its twin, so the message goes to the end of the queue there,
whole, as it is not limited. -/
lemma Paired.transmit (h : k.Paired fds pending) (e : End) (data : Bytes)
    {r : Channel.Request} (hr : r = ⟨e, .put data, none⟩) :
    replied "send" .count (k.transmit (fds e) data none).1 = (r.answer (pending r.source)).1 ∧
      (k.transmit (fds e) data none).2.Paired fds (r.leaves pending) := by
  subst hr
  dsimp only [Channel.Request.leaves, Channel.Request.source]
  obtain ⟨s, hs, -, -, htwin, -⟩ := h.linked e
  rw [Kernel.transmit, hs]
  dsimp only [limited]
  rw [htwin, List.take_length]
  refine ⟨rfl, ?_⟩
  -- The message is queued at the other end.
  let item : Item := ⟨data, s.near.getD (wildcard s.family), []⟩
  have hqueue (t : Socket) (ht : k.socket? (fds e.other) = some t) :
      (t.queue ++ [item]).map Item.data = pending e ++ [data] := by
    obtain ⟨t', ht', -, -, -, hpending⟩ := h.linked e.other
    obtain rfl := Option.some.inj (ht.symm.trans ht')
    rw [List.map_append, hpending, End.other_other]
    rfl
  have hmodify := h.modify (e := e.other) (f := fun t => { t with queue := t.queue ++ [item] })
    fun t ht => ⟨rfl, rfl, rfl, hqueue t ht⟩
  rwa [End.other_other] at hmodify

/-- A request that is hindered leaves what is pending. -/
lemma Paired.of_hindered (h : k.Paired fds pending) {r : Channel.Request} {err : Error}
    (hr : r.hindrance = some err) :
    k.Paired fds (r.leaves pending) := by
  rw [Channel.Request.leaves, Channel.Request.answer_of_hindered hr, Function.update_eq_self]
  exact h

/-- A call at an end is a request, if it is one when it is answered; when it fails, that is what
hinders the request.

**Proof sketch.** By whether a failure is due for the call. If it is, the call does nothing but take
it from the script, and the request is hindered by it. If none is, the call is answered without a
limit (`perform_eq`). -/
lemma Paired.perform (h : k.Paired fds pending) {c : Call} {reply : c.Answer → Channel.Reply}
    {r : Channel.Request} (hkind : c.kind ∈ [CallKind.recv, .send])
    (hr : r.hindrance = (k.due c.kind).map fun n => .system c.kind.name (.os n))
    (hanswer : r.hindrance = none →
      replied c.kind.name reply ((k.takeFault c.kind).2.answer none c).1 =
          (r.answer (pending r.source)).1 ∧
        ((k.takeFault c.kind).2.answer none c).2.Paired fds (r.leaves pending)) :
    replied c.kind.name reply (k.perform c).1 = (r.answer (pending r.source)).1 ∧
      (k.perform c).2.Paired fds (r.leaves pending) := by
  cases hdue : k.due c.kind with
  | some n =>
    rw [hdue] at hr
    have hstopped : (k.takeFault c.kind).2.stopped c = (k.takeFault c.kind).2 := by
      cases c <;> first | rfl | simp [Call.kind] at hkind
    rw [perform_of_due hdue, hstopped, Channel.Request.answer_of_hindered hr]
    exact ⟨rfl, (h.takeFault c.kind).of_hindered hr⟩
  | none =>
    rw [hdue] at hr
    rw [h.unshortened.perform_eq hkind hdue]
    exact hanswer hr

/-- A call that receives at an end is a request to the channel from the other one.

**Proof sketch.** The call takes a failure from the script, which is what hinders the request, or
else receives (`Paired.receive`). Taking from the script leaves what the kernel tells of the length
of messages. -/
lemma Paired.perform_recv (h : k.Paired fds pending) (e : End) (length : Nat)
    (flags : MessageFlags) (hwhole : flags.truncates = true → k.TellsWhole)
    {reply : Received → Channel.Reply} {whole : Bool}
    (hreply : ∀ m, reply ⟨told length flags.truncates m, m.take length⟩ =
      .octets (told length whole m) (m.take length))
    {r : Channel.Request} (hr : r = ⟨e, .get length flags.peeks whole,
      (k.due .recv).map fun n => .system "recv" (.os n)⟩) :
    replied "recv" reply (k.perform (.recv (fds e) length flags)).1 =
        (r.answer (pending r.source)).1 ∧
      (k.perform (.recv (fds e) length flags)).2.Paired fds (r.leaves pending) := by
  refine h.perform (c := .recv (fds e) length flags) List.mem_cons_self (by rw [hr]; rfl)
    fun hnone => ?_
  have hfree : r = ⟨e, .get length flags.peeks whole, none⟩ := by rw [← hnone, hr]
  have htells : flags.truncates = true → (k.takeFault .recv).2.TellsWhole := fun htruncates => by
    have htaken : (k.takeFault .recv).2.whole = k.whole := by
      unfold Kernel.takeFault
      split <;> rfl
    unfold TellsWhole
    rw [htaken]
    exact hwhole htruncates
  obtain ⟨hanswer, hpaired⟩ := (h.takeFault .recv).receive e length flags htells hreply hfree
  refine ⟨?_, hpaired⟩
  rw [← hanswer]
  dsimp only [answer, Call.kind]
  cases ((k.takeFault .recv).2.receive (fds e) length flags none).1 <;> rfl

/-- A call that sends at an end is a request to the channel from there. -/
lemma Paired.perform_send (h : k.Paired fds pending) (e : End) (data : Bytes)
    (flags : MessageFlags) {r : Channel.Request} (hr : r = ⟨e, .put data,
      (k.due .send).map fun n => .system "send" (.os n)⟩) :
    replied "send" .count (k.perform (.send (fds e) data flags)).1 =
        (r.answer (pending r.source)).1 ∧
      (k.perform (.send (fds e) data flags)).2.Paired fds (r.leaves pending) := by
  refine h.perform (c := .send (fds e) data flags) (.tail _ List.mem_cons_self) (by rw [hr]; rfl)
    fun hnone => ?_
  have hfree : r = ⟨e, .put data, none⟩ := by rw [← hnone, hr]
  exact (h.takeFault .send).transmit e data hfree

end Kernel

/-! ## Turns as requests -/

namespace Handle

variable {h : Handle} {fd : Descriptor} {side : Option SideData} {v : World}

/-- A handle is the end of a pair that is on a descriptor. -/
structure OnEnd (h : Handle) (fd : Descriptor) : Prop where
  descriptor_eq : h.descriptor = some fd
  protocol_eq : h.protocol = .unix
  not_enabled : h.flags.tls.enabled = false

/-- What a transfer that was one system call gives and leaves. -/
lemma Carried.replied_eq {α : Type} {c : Call} {got : c.Answer → α × Option SideData}
    {out : Transfer α × World} (hcarried : h.Carried side v c got out)
    (reply : α → Channel.Reply) :
    out.1.result.map reply =
        Kernel.replied c.kind.name (fun a => reply (got a).1) (v.kernel.perform c).1 ∧
      out.1.handle = h ∧ out.2.kernel = (v.kernel.perform c).2 ∧
        out.2.reservable = v.reservable := by
  cases hcarried with
  | failed hout | done hout =>
    rw [hout]
    exact ⟨rfl, rfl, rfl, rfl⟩

/-- Reading at an end is one system call. -/
lemma OnEnd.carried_read (hend : h.OnEnd fd) (buffer : Bytes) (flags : MessageFlags) :
    h.Carried side v (.recv fd buffer.length flags)
      (fun got : Received => (.ofReceived buffer got, side))
      (h.read buffer side flags v) := by
  rw [read_eq_readPlain hend.not_enabled hend.descriptor_eq]
  unfold readPlain
  rw [hend.protocol_eq]
  exact carried_readStream buffer flags

/-- Writing at an end is one system call. -/
lemma OnEnd.carried_write (hend : h.OnEnd fd) (data : Bytes) (flags : MessageFlags) :
    h.Carried side v (.send fd data flags) (fun n : Nat => (n, side))
      (h.write data side flags v) := by
  rw [write_eq_writePlain hend.not_enabled hend.descriptor_eq]
  unfold writePlain
  rw [hend.protocol_eq]
  exact carried_writeStream data flags

end Handle

namespace Pair

variable {p : Pair} {fds : End → Descriptor} {pending : End → List Bytes} {w : World}

/-- The handles of a pair are on two descriptors. -/
def OnEnds (p : Pair) (fds : End → Descriptor) : Prop := ∀ e, (p.handle e).OnEnd (fds e)

/-- What a request has led to from a world: a deal, and a world where the messages of its channel
wait, with no further faults on the script. -/
structure Done (p : Pair) (fds : End → Descriptor) (pending : End → List Bytes) (w : World)
    (r : Channel.Request) (out : (Deal × Pair) × World) : Prop where
  deal_eq : out.1.1 = ⟨r, (r.answer (pending r.source)).1⟩
  pair_eq : out.1.2 = p
  paired : out.2.kernel.Paired fds (r.leaves pending)
  faults_subset : ∀ kind, out.2.kernel.faults kind ⊆ w.kernel.faults kind
  whole_eq : out.2.kernel.whole = w.kernel.whole
  reservable_eq : out.2.reservable = w.reservable

/-- A transfer that was one system call is a request if that call is one. -/
lemma done_of_carried {α : Type} {e : End} {side : Option SideData} {c : Call}
    {got : c.Answer → α × Option SideData} {out : Transfer α × World}
    (hcarried : (p.handle e).Carried side w c got out) {reply : α → Channel.Reply}
    {r : Channel.Request} (hkind : c.kind ∈ [CallKind.recv, .send])
    (hperform : Kernel.replied c.kind.name (fun a => reply (got a).1) (w.kernel.perform c).1 =
        (r.answer (pending r.source)).1 ∧
      (w.kernel.perform c).2.Paired fds (r.leaves pending)) :
    p.Done fds pending w r
      ((⟨r, out.1.result.map reply⟩, p.withHandle e out.1.handle), out.2) := by
  obtain ⟨hresult, hhandle, hkernel, hreservable⟩ := hcarried.replied_eq reply
  refine ⟨?_, ?_, hkernel ▸ hperform.2, hkernel ▸ Kernel.perform_faults_subset hkind,
    hkernel ▸ Kernel.perform_whole hkind, hreservable⟩
  · rw [hresult, hperform.1]
  · show p.withHandle e out.1.handle = p
    rw [hhandle, p.withHandle_handle]

/-- What was read of a message into a buffer that has room for some of it.

**Proof sketch.** The buffer begins with what it has room for of the message. As many octets are
read from it as are told to be there, and not more than it has. -/
lemma octets_ofReceived (buffer m : Bytes) (whole : Bool) :
    (Reading.ofReceived buffer ⟨told buffer.length whole m, m.take buffer.length⟩).octets =
      m.take buffer.length := by
  unfold Reading.octets Reading.ofReceived Received.fill told
  dsimp only
  rw [List.take_take, Nat.min_self]
  cases whole with
  | false => exact List.take_left
  | true =>
    rw [if_pos rfl, List.length_take]
    rcases Nat.le_total m.length buffer.length with hle | hle
    · rw [List.take_of_length_le hle, List.take_left]
    · rw [Nat.min_eq_left hle, List.drop_length, List.append_nil]
      exact List.take_of_length_le (Nat.le_trans (List.length_take_le _ _) hle)

/-- What comes of a read whose buffer is cut to the count. -/
lemma result_map_octets (t : Transfer Reading) :
    (t.map Reading.octets).result.map replyOfOctets =
      t.result.map fun r => replyOfOctets r.octets := by
  obtain ⟨_ | _, _, _⟩ := t <;> rfl

/-- **A turn is a request** to the channel in which its messages go.

**Proof sketch.** Each of the three turns is a call on the descriptor of its end (`carried_write`,
`carried_read`), and that call is the request (`Paired.perform_send`, `Paired.perform_recv`). A
buffer of a given length may not be to be had, and then nothing is done at all. -/
theorem done_turn (hp : p.OnEnds fds) (hw : w.kernel.Paired fds pending) (e : End) (t : Turn)
    (ht : t.truncates = true → w.kernel.TellsWhole) :
    p.Done fds pending w ⟨e, t.action, t.hindrance w⟩ (p.turn e t w) := by
  cases t with
  | write data side flags =>
    exact done_of_carried ((hp e).carried_write data flags) (.tail _ List.mem_cons_self)
      (hw.perform_send e data flags rfl)
  | read buffer side flags =>
    refine done_of_carried ((hp e).carried_read buffer flags) List.mem_cons_self
      (hw.perform_recv e buffer.length flags ht (fun m => ?_) rfl)
    exact congrArg (Channel.Reply.octets _) (octets_ofReceived buffer m _)
  | readVec length side flags =>
    show p.Done fds pending w _ ((⟨_, ((p.handle e).readVec length side flags w).1.result.map
      replyOfOctets⟩, p.withHandle e ((p.handle e).readVec length side flags w).1.handle),
      ((p.handle e).readVec length side flags w).2)
    cases hl : w.reservable length with
    | true =>
      have hmade : (Handle.zeroed length).length = length := List.length_replicate
      have hhindrance : (Turn.readVec length side flags).hindrance w =
          (w.kernel.due .recv).map fun n => .system "recv" (.os n) := by simp [Turn.hindrance, hl]
      have hcarried : (p.handle e).Carried side w _ _
          ((p.handle e).read (Handle.zeroed length) side flags w) := (hp e).carried_read _ flags
      rw [hmade] at hcarried
      have hreply (m : Bytes) : replyOfOctets (Reading.ofReceived (Handle.zeroed length)
          ⟨told length flags.truncates m, m.take length⟩).octets =
            .octets (told length false m) (m.take length) := by
        have hoctets := octets_ofReceived (Handle.zeroed length) m flags.truncates
        rw [hmade] at hoctets
        rw [hoctets]
        rfl
      rw [Handle.readVec_of_reservable _ hl, hhindrance, result_map_octets]
      exact done_of_carried hcarried List.mem_cons_self
        (hw.perform_recv e length flags ht hreply rfl)
    | false =>
      have hhindrance : (Turn.readVec length side flags).hindrance w =
          some (.allocation length) := by simp [Turn.hindrance, hl]
      rw [Handle.readVec_of_unreservable _ hl, hhindrance]
      exact ⟨rfl, p.withHandle_handle e, hw.of_hindered rfl, fun _ => List.Subset.refl _, rfl, rfl⟩

/-! ## Turns one after the other -/

/-- What may hinder a turn: a failure that is on the script, or a buffer that cannot be had. -/
inductive Hinders (w : World) : Error → Prop
  | call {kind : CallKind} {n : Int} (hkind : kind ∈ [CallKind.recv, .send]) (hn : 0 < n)
    (hmem : n ∈ w.kernel.faults kind) : Hinders w (.system kind.name (.os n))
  | allocation {length : Nat} (h : w.reservable length = false) : Hinders w (.allocation length)

/-- What hinders a turn is a failure on the script or a buffer that cannot be had.

**Proof sketch.** A turn is hindered by the failure that is due for its call, or by the buffer that
it wanted. -/
lemma hinders_of_hindrance {t : Turn} {err : Error} (h : t.hindrance w = some err) :
    Hinders w err := by
  have hdue (kind : CallKind) (hkind : kind ∈ [CallKind.recv, .send])
      (h : ((w.kernel.due kind).map fun n => Error.system kind.name (.os n)) = some err) :
      Hinders w err := by
    obtain ⟨n, hn, rfl⟩ := Option.map_eq_some_iff.1 h
    obtain ⟨hpos, hmem⟩ := Kernel.mem_of_due hn
    exact .call hkind hpos hmem
  cases t with
  | write data side flags => exact hdue .send (.tail _ List.mem_cons_self) h
  | read buffer side flags => exact hdue .recv List.mem_cons_self h
  | readVec length side flags =>
    rw [Turn.hindrance] at h
    split at h
    · exact hdue .recv List.mem_cons_self h
    · rename_i hl
      obtain rfl := Option.some.inj h
      exact .allocation (Bool.eq_false_iff.2 hl)

/-- Where fewer faults are on the script, no more can hinder a turn. -/
lemma Hinders.mono {v : World} (hfaults : ∀ kind, v.kernel.faults kind ⊆ w.kernel.faults kind)
    (hreservable : v.reservable = w.reservable) {err : Error} (h : Hinders v err) :
    Hinders w err := by
  cases h with
  | call hkind hn hmem => exact .call hkind hn (hfaults _ hmem)
  | allocation h => exact .allocation (hreservable ▸ h)

/-- What turns at the two ends of a pair come to, from a world on. -/
structure Exchanged (p : Pair) (w : World) (ts : List (End × Turn)) : Prop where
  /-- There is one deal for each turn, for what that wants. -/
  asked : (p.turns ts w).1.1.map (fun d => (d.request.place, d.request.action)) =
    ts.map fun t => (t.1, t.2.action)
  /-- Turns are hindered by failures that are on the script, and by buffers that cannot be had. -/
  hindered : ∀ d ∈ (p.turns ts w).1.1, ∀ err, d.request.hindrance = some err →
    Hinders w err
  /-- The deals are those of two channels of their own: what goes one way is what comes of the
  requests of that way. -/
  apart : Apart (p.turns ts w).1.1
  /-- Messages are read in order and each once, and wait until then. -/
  orderly : Orderly (p.turns ts w).1.1
  /-- The messages that wait are those that are queued in the kernel. -/
  queued : ∀ e, ∃ fd s, ((p.turns ts w).1.2.handle e).descriptor = some fd ∧
    (p.turns ts w).2.kernel.socket? fd = some s ∧
      s.queue.map Item.data = waiting e.other (p.turns ts w).1.1

/-- What turns have led to, where some messages were pending. -/
structure Replayed (p : Pair) (fds : End → Descriptor) (pending : End → List Bytes) (w : World)
    (ts : List (End × Turn)) (out : (List Deal × Pair) × World) : Prop where
  asked : out.1.1.map (fun d => (d.request.place, d.request.action)) =
    ts.map fun t => (t.1, t.2.action)
  hindered : ∀ d ∈ out.1.1, ∀ err, d.request.hindrance = some err → Hinders w err
  replay_eq : ∀ e, along e out.1.1 = replay (pending e) ((along e out.1.1).map Deal.request)
  pair_eq : out.1.2 = p
  paired : out.2.kernel.Paired fds fun e => rest (pending e) ((along e out.1.1).map Deal.request)

/-- **Turns are requests** to the two channels, each in the order of its own.

**Proof sketch.** Induction on the turns, with any messages pending. The first turn is a request to
one of the channels and leaves the handles connected, with what that request leaves pending there
and what was pending in the other channel; from there on the others are replayed. -/
theorem replayed_turns (hp : p.OnEnds fds) (hw : w.kernel.Paired fds pending)
    (ts : List (End × Turn)) (hts : ∀ t ∈ ts, t.2.truncates = true → w.kernel.TellsWhole) :
    p.Replayed fds pending w ts (p.turns ts w) := by
  induction ts generalizing w pending with
  | nil => exact ⟨rfl, List.forall_mem_nil _, fun _ => rfl, rfl, hw⟩
  | cons turn ts ih =>
    obtain ⟨e, t⟩ := turn
    obtain ⟨ht, hts⟩ := List.forall_mem_cons.1 hts
    obtain ⟨hdeal, hpair, hpaired, hfaults, hwhole, hreservable⟩ := done_turn hp hw e t ht
    have hrest := ih hpaired fun t hmem htruncates => by
      unfold Kernel.TellsWhole
      rw [hwhole]
      exact hts t hmem htruncates
    have hturns : p.turns ((e, t) :: ts) w =
        (((p.turn e t w).1.1 :: ((p.turn e t w).1.2.turns ts (p.turn e t w).2).1.1,
          ((p.turn e t w).1.2.turns ts (p.turn e t w).2).1.2),
          ((p.turn e t w).1.2.turns ts (p.turn e t w).2).2) := rfl
    rw [hturns, hpair, hdeal]
    generalize p.turns ts (p.turn e t w).2 = out at hrest
    refine ⟨?_, ?_, fun e' => along_cons_eq_replay hrest.replay_eq e', hrest.pair_eq, ?_⟩
    · rw [List.map_cons, List.map_cons, hrest.asked]
    · exact List.forall_mem_cons.2 ⟨fun err herr => hinders_of_hindrance herr,
        fun d hd err herr => (hrest.hindered d hd err herr).mono hfaults hreservable⟩
    · simp only [rest_along_cons]
      exact hrest.paired

/-- **Turns at the two ends of a pair** are exchanged, if nothing was pending.

**Proof sketch.** The turns are requests to the channel in their order (`replayed_turns`), so the
history is one that the channel replays. Such a history is orderly, and what waits at an end is what
is queued at its socket. -/
theorem exchanged_of_paired (hp : p.OnEnds fds) (hw : w.kernel.Paired fds fun _ => [])
    (ts : List (End × Turn)) (hts : ∀ t ∈ ts, t.2.truncates = true → w.kernel.TellsWhole) :
    p.Exchanged w ts := by
  have hreplayed := replayed_turns hp hw ts hts
  have hapart : Apart (p.turns ts w).1.1 := hreplayed.replay_eq
  refine ⟨hreplayed.asked, hreplayed.hindered, hapart, hapart.orderly, fun e => ?_⟩
  obtain ⟨s, hs, -, -, -, hqueue⟩ := hreplayed.paired.linked e
  rw [← hapart.waiting_eq] at hqueue
  exact ⟨fds e, s, by rw [hreplayed.pair_eq, (hp e).descriptor_eq], hs, hqueue⟩

end Pair

/-! ## Pairs -/

namespace Kernel

variable {k : Kernel}

/-- Descriptors are opened in their order. -/
def Fresh (k : Kernel) : Prop := ∀ fd ∈ k.descriptors, fd < k.nextDescriptor

/-- Opening a socket makes it that of the next descriptor and leaves the others. -/
lemma Fresh.socket?_opened (h : k.Fresh) (s : Socket) :
    (k.opened s).socket? k.nextDescriptor = some s ∧
      ∀ fd < k.nextDescriptor, (k.opened s).socket? fd = k.socket? fd := by
  have hnone : k.sockets.lookup k.nextDescriptor = none := by
    refine List.lookup_eq_none_iff.2 fun q hq => ?_
    simpa using Nat.ne_of_gt (h q.1 (List.mem_map_of_mem hq))
  refine ⟨?_, fun fd hfd => ?_⟩
  · simp [socket?, opened, List.lookup_append, hnone]
  · have hne : (fd == k.nextDescriptor) = false := beq_false_of_ne (Nat.ne_of_lt hfd)
    simp [socket?, opened, List.lookup_append, List.lookup_cons, hne]

/-- Descriptors are opened in their order still when one was. -/
lemma Fresh.opened (h : k.Fresh) (s : Socket) : (k.opened s).Fresh := by
  intro fd hfd
  rw [descriptors_opened, List.mem_append, List.mem_singleton] at hfd
  show fd < k.nextDescriptor + 1
  rcases hfd with hfd | rfl
  · exact Nat.lt_succ_of_lt (h fd hfd)
  · exact Nat.lt_succ_self _

/-- Descriptors are opened in their order, whatever faults are taken. -/
lemma Fresh.takeFault (h : k.Fresh) (kind : CallKind) : (k.takeFault kind).2.Fresh := by
  unfold Kernel.takeFault
  split <;> exact h

/-- A pair that was opened is connected, with nothing pending.

**Proof sketch.** The first descriptor is still that of the first socket after the second one was
opened, and each socket knows the number of the other. -/
lemma Fresh.paired_opened (h : k.Fresh) {s t : Socket} (hs : s.type = .dgram) (ht : t.type = .dgram)
    (hs' : s.ended = false ∧ s.twin = some (k.nextDescriptor + 1) ∧ s.queue = [])
    (ht' : t.ended = false ∧ t.twin = some k.nextDescriptor ∧ t.queue = [])
    (hk : ((k.opened s).opened t).Unshortened) : ((k.opened s).opened t).Paired
      (fun e => match e with
        | .first => k.nextDescriptor
        | .second => k.nextDescriptor + 1) fun _ => [] := by
  refine ⟨hk, Nat.ne_of_lt (Nat.lt_succ_self _), fun e => ?_⟩
  obtain ⟨hnew, hkept⟩ := (h.opened s).socket?_opened t
  cases e with
  | first =>
    refine ⟨s, (hkept _ (Nat.lt_succ_self _)).trans (h.socket?_opened s).1, hs, hs'.1, hs'.2.1, ?_⟩
    rw [hs'.2.2]
    rfl
  | second =>
    refine ⟨t, hnew, ht, ht'.1, ht'.2.1, ?_⟩
    rw [ht'.2.2]
    rfl

/-- A call that opens a pair connects it, with nothing pending. -/
lemma Fresh.paired_socketpair (h : k.Fresh) {family : Family} {protocol : Int}
    {a b : Descriptor} (hab : (k.perform (.socketpair family .dgram protocol)).1 = .ok (a, b)) :
    ∃ fds : End → Descriptor, fds .first = a ∧ fds .second = b ∧
      ((k.perform (.socketpair family .dgram protocol)).2.Unshortened →
        (k.perform (.socketpair family .dgram protocol)).2.Paired fds fun _ => []) := by
  have hle : (k.takeFault .socketpair).1 ≤ 0 := by
    by_contra hpos
    have hdue : k.due .socketpair = some (k.takeFault .socketpair).1 := if_pos (Int.not_le.1 hpos)
    rw [perform_of_due (c := .socketpair family .dgram protocol) hdue] at hab
    exact nomatch hab
  rw [perform_of_fault_le (c := .socketpair family .dgram protocol) hle] at hab ⊢
  obtain ⟨rfl, rfl⟩ := Prod.mk.inj (Except.ok.inj hab)
  exact ⟨_, rfl, rfl, (h.takeFault .socketpair).paired_opened rfl rfl ⟨rfl, rfl, rfl⟩
    ⟨rfl, rfl, rfl⟩⟩

end Kernel

namespace Net

/-- A system call that has succeeded has done in the kernel what it does. -/
lemma leads_require_kernel {k : Kernel} (context : String) (c : Call) :
    Leads (fun w => w.kernel = k) (require context c).run (OnOk fun a w =>
      (k.perform c).1 = .ok a ∧ w.kernel = (k.perform c).2) := by
  have hcall : Leads (fun w => w.kernel = k) (syscall c) fun r w =>
      (k.perform c).1 = r ∧ w.kernel = (k.perform c).2 := by
    rintro w rfl
    exact ⟨rfl, rfl⟩
  refine .run_lift_bind hcall fun r => ?_
  cases r with
  | ok a => exact .run_pure a fun w hw => hw
  | error n => exact fun _ _ => trivial

/-- The handles of a pair are on two descriptors that are connected, with nothing pending.

**Proof sketch.** The kernel opens the two sockets in one call (`paired_socketpair`), and making the
handles leaves it. -/
lemma leads_socketpair_paired :
    Leads (fun w => w.kernel.Fresh) socketpair.run (OnOk fun q w => ∃ fds,
      (Pair.mk q.1 q.2).OnEnds fds ∧
        (w.kernel.Unshortened → w.kernel.Paired fds fun _ => [])) := by
  intro w hw
  have hrun : Leads (fun v => v.kernel = w.kernel) socketpair.run (OnOk fun q v => ∃ fds,
      (Pair.mk q.1 q.2).OnEnds fds ∧
        (v.kernel.Unshortened → v.kernel.Paired fds fun _ => [])) := by
    refine .run_bind_ok (leads_require_kernel _ _) fun ab => .of_and fun hab => ?_
    obtain ⟨a, b⟩ := ab
    obtain ⟨fds, rfl, rfl, hpaired⟩ := hw.paired_socketpair hab
    rintro v hv
    refine ⟨fds, fun e => ?_, ?_⟩
    · cases e <;> exact ⟨rfl, rfl, rfl⟩
    · rw [← hv] at hpaired
      exact hpaired
  exact hrun w rfl

end Net

namespace Run

/-- Descriptors are opened in their order all along a run. -/
lemma Sane.fresh {stray : Prop} {r : Run} (hr : r.Sane stray) : r.world.kernel.Fresh := by
  obtain ⟨H, hB, -⟩ := hr
  intro fd hfd
  by_contra hle
  rw [hB.open_iff, hB.eq_none_of_le (Nat.not_lt.1 hle)] at hfd
  exact nomatch hfd

/-- **The handles of a pair** that is made in a run exchange messages by turns, whatever else was
done before. Readers who ask for the whole length of a message are told that, if the kernel tells
it.

**Proof sketch.** A pair is on two fresh descriptors that are connected with each other, with
nothing pending. Each turn is one call on one of them, or none, and that is a request to one of the
two channels; so the turns are the requests to the channels, each in the order of its own, and of a
channel of its own it is known what comes. -/
theorem exchanged_pair (w : World) (ss : List Step) {a b : Handle} {v : World}
    (hpair : Net.socketpair.run ((start w).steps ss).world = (.ok (a, b), v))
    (hv : v.kernel.Unshortened) (ts : List (End × Pair.Turn))
    (hts : ∀ t ∈ ts, t.2.truncates = true → v.kernel.TellsWhole) :
    Pair.Exchanged ⟨a, b⟩ v ts := by
  have hsane : ((start w).steps ss).Sane True :=
    Sane.steps (sane_start w) ss fun _ _ _ => trivial
  have hok := Net.leads_socketpair_paired _ hsane.fresh
  rw [hpair] at hok
  obtain ⟨fds, hends, hpaired⟩ := hok
  exact Pair.exchanged_of_paired hends (hpaired hv) ts hts

/-- Some turns at the ends of a pair where the second write and the third read fail. -/
theorem exchanged_failing :
    ∃ (w : World) (a b : Handle) (v : World) (ts : List (End × Pair.Turn)),
      Net.socketpair.run ((start w).steps []).world = (.ok (a, b), v) ∧ v.kernel.Unshortened ∧
      Pair.Exchanged ⟨a, b⟩ v ts ∧
        sent .first ((⟨a, b⟩ : Pair).turns ts v).1.1 = [[1, 2, 3], []] ∧
          taken .first ((⟨a, b⟩ : Pair).turns ts v).1.1 = [(2, [1, 2]), (8, [])] := by
  let w : World :=
    { kernel := { faults := fun
        | .send => [0, 105]
        | .recv => [0, 0, 4]
        | _ => [] } }
  let ts : List (End × Pair.Turn) :=
    [(.first, .write [1, 2, 3] none .empty), (.first, .write [9] none .empty),
      (.first, .write [] none .empty), (.second, .read [0, 0] none (.union .peek .truncate)),
      (.second, .readVec 2 none .empty), (.second, .readVec 8 none .empty),
      (.second, .readVec 8 none .empty), (.second, .readVec 8 none .empty)]
  have hv : (Net.socketpair.run ((start w).steps []).world).2.kernel.Unshortened := by
    unfold Kernel.Unshortened
    decide
  exact ⟨w, _, _, _, ts, rfl, hv, exchanged_pair w [] rfl hv ts fun _ _ _ _ _ _ _ => rfl,
    by decide +kernel, by decide +kernel⟩

end Run

end Sockets
