import Mathlib.Tactic.Lemma
import Sockets.Handle.Transfer

/-!
# What transfers do

A transfer on a handle that owns a descriptor does one of few things. It is refused, where it makes
no sense; it is one system call with one record, where there is no encryption; or it is one call of
the session of the handle, with one record. A buffer that cannot be had is refused before anything
else is looked at. This module says so once, for all transports and for both directions, and what
is to be known of transfers follows from it by cases.

## Main definitions

* `Sockets.Handle.Unreadable`, `Sockets.Handle.Unwritable` — where transfers make no sense.
* `Sockets.Tls.Session.Answers` — what a session answers to a call.
* `Sockets.Handle.Carried` — a transfer is one system call.
* `Sockets.Handle.ReadsPlain`, `Sockets.Handle.WritesPlain` — what becomes of a read and of a write
  without encryption.
* `Sockets.Handle.Reads`, `Sockets.Handle.Writes` — and with or without.
* `Sockets.Handle.Goes`, `Sockets.Handle.Transfers` — what becomes of a transfer, whatever its
  direction.

## Main results

* `Sockets.Handle.reads_read`, `Sockets.Handle.writes_write` — reading and writing.
* `Sockets.Handle.goes_read`, `Sockets.Handle.goes_readVec`, `Sockets.Handle.goes_write` —
  transfers.
-/

set_option autoImplicit false

namespace Sockets

/-! ## Transfers that make no sense -/

namespace Handle

/-- **Reading makes no sense** on an encrypted handle that has no session, without a slot for the
sender of a datagram, and where messages of SCTP carry no headers. -/
inductive Unreadable (f : Features) (h : Handle) (side : Option SideData) : Prop where
  | unsecured (htls : h.flags.tls.enabled = true) (hsession : h.session = none)
  | slotless (htls : h.flags.tls.enabled = false) (hp : h.protocol = .udp)
      (hside : ∀ peer, side ≠ some (.datagram peer))
  | headerless (htls : h.flags.tls.enabled = false) (hp : h.protocol = .sctp)
      (hf : f.sctpMessages = false)

/-- **Writing makes no sense** on an encrypted handle that has no session, of a datagram with a
header of SCTP, of one that has nowhere to go, and where messages of SCTP carry no headers. -/
inductive Unwritable (f : Features) (h : Handle) (side : Option SideData) : Prop where
  | unsecured (htls : h.flags.tls.enabled = true) (hsession : h.session = none)
  | headed (htls : h.flags.tls.enabled = false) (hp : h.protocol = .udp) (header : Sctp.Header)
      (hside : side = some (.sctp header))
  | aimless (htls : h.flags.tls.enabled = false) (hp : h.protocol = .udp)
      (hside : side.bind SideData.peer? = none) (hfar : h.far.address = none)
  | headerless (htls : h.flags.tls.enabled = false) (hp : h.protocol = .sctp)
      (hf : f.sctpMessages = false)

end Handle

/-! ## One call -/

/-- What follows a system call goes by its outcome. -/
lemma Net.syscall_bind {α : Type} (c : Call) (f : Except Int c.Answer → Net α) (w : World) :
    (Net.syscall c >>= f) w = f (w.kernel.perform c).1 (Net.syscall c w).2 := rfl

/-- What a session answers to a call that moves data, a count or a failure, and the session after
it. -/
inductive Tls.Session.Answers (s : Session) : TlsCall → Except TlsError Nat → Session → Prop
  | read (length : Nat) :
    Answers s (.read length) ((s.takeRead length).1.map Received.count) (s.takeRead length).2
  | write (data : Bytes) : Answers s (.write data) (s.takeWrite data).1 (s.takeWrite data).2

/-- The side data of the caller after a message of SCTP was read: a slot for a header receives the
header of the message, if it has one. -/
def SideData.headed (side : Option SideData) (control : List ControlMessage) : Option SideData :=
  match side, Sctp.Header.find? control with
  | some (sctp _), some header => some (sctp header)
  | side, _ => side

namespace Handle

variable {α β : Type} {h : Handle} {fd : Descriptor} {v : World} {side : Option SideData}

/-- **A transfer is one system call** on a handle, from a world: if the call failed so did the
transfer, with the error of the kernel and the side data as it was; if it succeeded the caller got
what the kernel answered. The handle is what it was, and the call and one record are all that
happened. -/
inductive Carried (h : Handle) (side : Option SideData) (v : World) (c : Call)
    (got : c.Answer → α × Option SideData) : Transfer α × World → Prop
  | failed {n : Int} (hout : (v.kernel.perform c).1 = .error n) :
    Carried h side v c got (⟨.error (.system c.kind.name (.os n)), side, h⟩,
      (Net.syscall c v).2.noting (.record v.sink (failureLevel (.os n))
        (h.name ++ ": " ++ c.kind.name ++ ": " ++ (Fault.os n).message)))
  | done {answer : c.Answer} (hout : (v.kernel.perform c).1 = .ok answer) (message : String) :
    Carried h side v c got (⟨.ok (got answer).1, (got answer).2, h⟩,
      (Net.syscall c v).2.noting (.record v.sink .verbose message))

/-- One system call and what is told of it is a transfer that is one system call. -/
lemma carried_call (c : Call) {got : c.Answer → α × Option SideData}
    {f : Except Int c.Answer → Net (Transfer α)}
    (hfailed : ∀ n, f (.error n) = transferFailed h side c.kind.name n)
    (hdone : ∀ answer, ∃ what, f (.ok answer) = transferred h (got answer).2 (got answer).1 what) :
    h.Carried side v c got ((Net.syscall c >>= f) v) := by
  rw [Net.syscall_bind]
  cases hout : (v.kernel.perform c).1 with
  | error n =>
    rw [hfailed]
    exact .failed hout
  | ok answer =>
    obtain ⟨what, ha⟩ := hdone answer
    rw [ha]
    exact .done hout _

/-- The call and one record are all that is in the journal of a transfer that is one system call. -/
lemma Carried.journal_eq {c : Call} {got : c.Answer → α × Option SideData}
    {out : Transfer α × World} (hcarried : h.Carried side v c got out) :
    ∃ level message, out.2.journal =
      v.journal ++ [.call c (v.kernel.perform c).1, .record v.sink level message] := by
  cases hcarried with
  | failed | done => exact ⟨_, _, List.append_assoc ..⟩

/-! ## Reading -/

/-- **What becomes of a read without encryption**: it is refused if it makes no sense, and else it
is one call on the descriptor, of a kind that goes with the transport. -/
inductive ReadsPlain (h : Handle) (fd : Descriptor) (v : World) (buffer : Bytes)
    (side : Option SideData) (flags : MessageFlags) : Transfer Reading × World → Prop
  | refused (operation : String) (hno : h.Unreadable v.features side) :
    ReadsPlain h fd v buffer side flags (h.refused side operation, v)
  | datagram {peer : Option Address} {out : Transfer Reading × World} (hp : h.protocol = .udp)
    (hside : side = some (.datagram peer))
    (hcarried : h.Carried side v (.recvfrom fd buffer.length flags)
      (fun answer : Received × Address =>
        (.ofReceived buffer answer.1, some (.datagram (some answer.2)))) out) :
    ReadsPlain h fd v buffer side flags out
  | message {out : Transfer Reading × World} (hp : h.protocol = .sctp)
    (hf : v.features.sctpMessages = true)
    (hcarried : h.Carried side v (.recvmsg fd buffer.length flags)
      (fun answer : Received × List ControlMessage =>
        (.ofReceived buffer answer.1, SideData.headed side answer.2)) out) :
    ReadsPlain h fd v buffer side flags out
  | stream {out : Transfer Reading × World}
    (hp : h.protocol = .tcp ∨ h.protocol = .unix ∨ h.protocol = .unspecified)
    (hcarried : h.Carried side v (.recv fd buffer.length flags)
      (fun got : Received => (.ofReceived buffer got, side)) out) :
    ReadsPlain h fd v buffer side flags out

/-- **What becomes of a read** on a handle that owns a descriptor: on an encrypted one it is refused
if there is no session, and else goes through that. -/
inductive Reads (h : Handle) (fd : Descriptor) (v : World) (buffer : Bytes)
    (side : Option SideData) (flags : MessageFlags) : Transfer Reading × World → Prop
  | unsecured (htls : h.flags.tls.enabled = true) (hs : h.session = none) :
    Reads h fd v buffer side flags (h.refused side "read before TLS negotiation", v)
  | session {s : Tls.Session} (htls : h.flags.tls.enabled = true) (hs : h.session = some s) :
    Reads h fd v buffer side flags (h.readSession fd s buffer side v)
  | plain {out : Transfer Reading × World} (htls : h.flags.tls.enabled = false)
    (hplain : h.ReadsPlain fd v buffer side flags out) : Reads h fd v buffer side flags out

/-- Without encryption there is no session to go through. -/
lemma Reads.of_not_enabled {buffer : Bytes} {flags : MessageFlags} {out : Transfer Reading × World}
    (hreads : h.Reads fd v buffer side flags out) (htls : h.flags.tls.enabled = false) :
    h.ReadsPlain fd v buffer side flags out := by
  cases hreads with
  | plain _ hplain => exact hplain
  | unsecured hno | session hno => exact Bool.noConfusion (htls.symm.trans hno)

/-- Reading from a stream is one call. -/
lemma carried_readStream (buffer : Bytes) (flags : MessageFlags) :
    h.Carried side v (.recv fd buffer.length flags)
      (fun got : Received => (.ofReceived buffer got, side))
      (h.readStream fd buffer side flags v) :=
  carried_call (.recv fd buffer.length flags) (fun _ => rfl) fun _ => ⟨_, rfl⟩

/-- A message of SCTP is read only if messages carry headers. -/
lemma readPlain_sctp (hp : h.protocol = .sctp) (buffer : Bytes) (flags : MessageFlags) :
    h.readPlain fd buffer side flags v = if v.features.sctpMessages
      then h.readMessage fd buffer side flags v else (h.refused side "read", v) := by
  unfold readPlain
  rw [hp]
  exact apply_ite (fun x : Net (Transfer Reading) => x v) _ _ _

/-- Without encryption reading is reading plainly. -/
lemma read_eq_readPlain (htls : h.flags.tls.enabled = false) (hfd : h.descriptor = some fd)
    (buffer : Bytes) (side : Option SideData) (flags : MessageFlags) :
    h.read buffer side flags = h.readPlain fd buffer side flags := by
  unfold read
  rw [htls, hfd]
  rfl

/-- Reading without encryption.

**Proof sketch.** By the protocol of the handle, and for datagrams and messages by whether there is
a slot of the right kind. Without one the read is refused; otherwise it is one call. -/
lemma reads_readPlain (htls : h.flags.tls.enabled = false) (buffer : Bytes)
    (side : Option SideData) (flags : MessageFlags) :
    h.ReadsPlain fd v buffer side flags (h.readPlain fd buffer side flags v) := by
  have hstream (hp : h.protocol = .tcp ∨ h.protocol = .unix ∨ h.protocol = .unspecified) :
      h.ReadsPlain fd v buffer side flags (h.readStream fd buffer side flags v) :=
    .stream hp (carried_readStream buffer flags)
  cases hp : h.protocol with
  | sctp =>
    rw [readPlain_sctp hp]
    split
    · rename_i hf
      refine .message hp hf (carried_call (.recvmsg fd buffer.length flags) (fun _ => rfl) ?_)
      rintro ⟨got, control⟩
      exact ⟨_, rfl⟩
    · rename_i hf
      exact .refused _ (.headerless htls hp (Bool.eq_false_iff.2 hf))
  | udp =>
    unfold readPlain
    rw [hp]
    rcases side with _ | peer | header
    · exact .refused _ (.slotless htls hp nofun)
    · exact .datagram hp rfl
        (carried_call (.recvfrom fd buffer.length flags) (fun _ => rfl) fun _ => ⟨_, rfl⟩)
    · exact .refused _ (.slotless htls hp nofun)
  | tcp | unix | unspecified =>
    unfold readPlain
    rw [hp]
    exact hstream (by simp [hp])

/-- **Reading.**

**Proof sketch.** An encrypted handle reads from its session, if it has one. Any other one reads
without encryption (`reads_readPlain`). -/
theorem reads_read (hfd : h.descriptor = some fd) (v : World) (buffer : Bytes)
    (side : Option SideData) (flags : MessageFlags) :
    h.Reads fd v buffer side flags (h.read buffer side flags v) := by
  cases htls : h.flags.tls.enabled with
  | false =>
    rw [read_eq_readPlain htls hfd]
    exact .plain htls (reads_readPlain htls buffer side flags)
  | true =>
    unfold read
    rw [if_pos htls, hfd]
    cases hs : h.session with
    | none => exact .unsecured htls hs
    | some s => exact .session htls hs

/-! ## Writing -/

/-- **What becomes of a write without encryption**: it is refused if it makes no sense, and else it
is one call on the descriptor, of a kind that goes with the transport. -/
inductive WritesPlain (h : Handle) (fd : Descriptor) (v : World) (data : Bytes)
    (side : Option SideData) (flags : MessageFlags) : Transfer Nat × World → Prop
  | refused (operation : String) (hno : h.Unwritable v.features side) :
    WritesPlain h fd v data side flags (h.refused side operation, v)
  | datagram {peer : Address} {out : Transfer Nat × World} (hp : h.protocol = .udp)
    (hpeer : h.destination? side = .ok peer)
    (hcarried : h.Carried side v (.sendto fd data flags peer) (fun n : Nat => (n, side)) out) :
    WritesPlain h fd v data side flags out
  | message {out : Transfer Nat × World} (hp : h.protocol = .sctp)
    (hf : v.features.sctpMessages = true)
    (hcarried : h.Carried side v (.sendmsg fd data flags [(headerFor side).control])
      (fun n : Nat => (n, side)) out) :
    WritesPlain h fd v data side flags out
  | stream {out : Transfer Nat × World}
    (hp : h.protocol = .tcp ∨ h.protocol = .unix ∨ h.protocol = .unspecified)
    (hcarried : h.Carried side v (.send fd data flags) (fun n : Nat => (n, side)) out) :
    WritesPlain h fd v data side flags out

/-- **What becomes of a write** on a handle that owns a descriptor: on an encrypted one it is
refused if there is no session, and else goes through that. -/
inductive Writes (h : Handle) (fd : Descriptor) (v : World) (data : Bytes)
    (side : Option SideData) (flags : MessageFlags) : Transfer Nat × World → Prop
  | unsecured (htls : h.flags.tls.enabled = true) (hs : h.session = none) :
    Writes h fd v data side flags (h.refused side "write before TLS negotiation", v)
  | session {s : Tls.Session} (htls : h.flags.tls.enabled = true) (hs : h.session = some s) :
    Writes h fd v data side flags (h.writeSession fd s data side v)
  | plain {out : Transfer Nat × World} (htls : h.flags.tls.enabled = false)
    (hplain : h.WritesPlain fd v data side flags out) : Writes h fd v data side flags out

/-- Without encryption there is no session to go through. -/
lemma Writes.of_not_enabled {data : Bytes} {flags : MessageFlags} {out : Transfer Nat × World}
    (hwrites : h.Writes fd v data side flags out) (htls : h.flags.tls.enabled = false) :
    h.WritesPlain fd v data side flags out := by
  cases hwrites with
  | plain _ hplain => exact hplain
  | unsecured hno | session hno => exact Bool.noConfusion (htls.symm.trans hno)

/-- A datagram that has nowhere to go, or a header of SCTP. -/
lemma unwritable_of_destination? (htls : h.flags.tls.enabled = false) (hp : h.protocol = .udp)
    {operation : String} (hno : h.destination? side = .error operation) (f : Features) :
    h.Unwritable f side := by
  unfold destination? at hno
  rcases side with _ | (_ | peer) | header
  · cases hfar : h.far.address with
    | none => exact .aimless htls hp rfl hfar
    | some a => simp [hfar] at hno
  · cases hfar : h.far.address with
    | none => exact .aimless htls hp rfl hfar
    | some a => simp [hfar] at hno
  · simp at hno
  · exact .headed htls hp header rfl

/-- Writing to a stream is one call. -/
lemma carried_writeStream (data : Bytes) (flags : MessageFlags) :
    h.Carried side v (.send fd data flags) (fun n : Nat => (n, side))
      (h.writeStream fd data side flags v) :=
  carried_call (.send fd data flags) (fun _ => rfl) fun _ => ⟨_, rfl⟩

/-- Writing a message of SCTP is one call. -/
lemma carried_writeMessage (data : Bytes) (flags : MessageFlags) :
    h.Carried side v (.sendmsg fd data flags [(headerFor side).control])
      (fun n : Nat => (n, side)) (h.writeMessage fd data side flags v) :=
  carried_call (.sendmsg fd data flags _) (fun _ => rfl) fun _ => ⟨_, rfl⟩

/-- A message of SCTP is written only if messages carry headers. -/
lemma writePlain_sctp (hp : h.protocol = .sctp) (data : Bytes) (flags : MessageFlags) :
    h.writePlain fd data side flags v = if v.features.sctpMessages
      then h.writeMessage fd data side flags v else (h.refused side "write", v) := by
  unfold writePlain
  rw [hp]
  exact apply_ite (fun x : Net (Transfer Nat) => x v) _ _ _

/-- Without encryption writing is writing plainly. -/
lemma write_eq_writePlain (htls : h.flags.tls.enabled = false) (hfd : h.descriptor = some fd)
    (data : Bytes) (side : Option SideData) (flags : MessageFlags) :
    h.write data side flags = h.writePlain fd data side flags := by
  unfold write
  rw [htls, hfd]
  rfl

/-- Writing without encryption.

**Proof sketch.** By the protocol of the handle. For a datagram the destination decides whether it
is refused, for messages whether there are headers at all; otherwise it is one call. -/
lemma writes_writePlain (htls : h.flags.tls.enabled = false) (data : Bytes)
    (side : Option SideData) (flags : MessageFlags) :
    h.WritesPlain fd v data side flags (h.writePlain fd data side flags v) := by
  have hstream (hp : h.protocol = .tcp ∨ h.protocol = .unix ∨ h.protocol = .unspecified) :
      h.WritesPlain fd v data side flags (h.writeStream fd data side flags v) :=
    .stream hp (carried_writeStream data flags)
  cases hp : h.protocol with
  | sctp =>
    rw [writePlain_sctp hp]
    split
    · exact .message hp ‹_› (carried_writeMessage data flags)
    · rename_i hf
      exact .refused _ (.headerless htls hp (Bool.eq_false_iff.2 hf))
  | udp =>
    unfold writePlain writeDatagram
    rw [hp]
    cases hpeer : h.destination? side with
    | error operation => exact .refused _ (unwritable_of_destination? htls hp hpeer _)
    | ok peer =>
      exact .datagram hp hpeer
        (carried_call (.sendto fd data flags peer) (fun _ => rfl) fun _ => ⟨_, rfl⟩)
  | tcp | unix | unspecified =>
    unfold writePlain
    rw [hp]
    exact hstream (by simp [hp])

/-- **Writing.**

**Proof sketch.** An encrypted handle writes to its session, if it has one. Any other one writes
without encryption (`writes_writePlain`). -/
theorem writes_write (hfd : h.descriptor = some fd) (v : World) (data : Bytes)
    (side : Option SideData) (flags : MessageFlags) :
    h.Writes fd v data side flags (h.write data side flags v) := by
  cases htls : h.flags.tls.enabled with
  | false =>
    rw [write_eq_writePlain htls hfd]
    exact .plain htls (writes_writePlain htls data side flags)
  | true =>
    unfold write
    rw [if_pos htls, hfd]
    cases hs : h.session with
    | none => exact .unsecured htls hs
    | some s => exact .session htls hs

/-! ## Both directions -/

/-- **What becomes of a transfer**, whatever its direction: it is refused because it makes no sense,
or because its buffer cannot be had; or it is one system call that moves data; or it is one call of
the session of the handle. Behind a call there is one record, and nothing else happens. -/
inductive Goes (h : Handle) (fd : Descriptor) (v : World) (side : Option SideData)
    (senseless : Prop) : Transfer α × World → Prop
  | refused (operation : String) (hno : senseless) :
    Goes h fd v side senseless (h.refused side operation, v)
  | unreservable (length : Nat) (message : String) (hyes : ¬ senseless) :
    Goes h fd v side senseless
      (⟨.error (.allocation length), side, h⟩, v.noting (.record v.sink .fatal message))
  | failed {c : Call} {n : Int} (hyes : ¬ senseless) (hc : c.kind.movesData = true)
    (hout : (v.kernel.perform c).1 = .error n) :
    Goes h fd v side senseless (⟨.error (.system c.kind.name (.os n)), side, h⟩,
      (Net.syscall c v).2.noting (.record v.sink (failureLevel (.os n))
        (h.name ++ ": " ++ c.kind.name ++ ": " ++ (Fault.os n).message)))
  | done {c : Call} {answer : c.Answer} (hyes : ¬ senseless) (hc : c.kind.movesData = true)
    (hout : (v.kernel.perform c).1 = .ok answer) (a : α) (told : Option SideData)
    (message : String) :
    Goes h fd v side senseless
      (⟨.ok a, told, h⟩, (Net.syscall c v).2.noting (.record v.sink .verbose message))
  | denied {s t : Tls.Session} {c : TlsCall} {e : TlsError} (hyes : ¬ senseless)
    (hs : h.session = some s) (hanswer : s.Answers c (.error e) t) (message : String) :
    Goes h fd v side senseless (⟨.error (.tls e), side, { h with session := some t }⟩,
      (v.noting (.tls fd c .failed)).noting (.record v.sink .error message))
  | used {s t : Tls.Session} {c : TlsCall} {n : Nat} (hyes : ¬ senseless)
    (hs : h.session = some s) (hanswer : s.Answers c (.ok n) t) (a : α) (message : String) :
    Goes h fd v side senseless (⟨.ok a, side, { h with session := some t }⟩,
      (v.noting (.tls fd c (.moved n))).noting (.record v.sink .verbose message))

variable {senseless : Prop}

/-- A transfer that is one system call. -/
lemma Carried.goes {c : Call} {got : c.Answer → α × Option SideData} {out : Transfer α × World}
    (hcarried : h.Carried side v c got out) (hyes : ¬ senseless) (hc : c.kind.movesData = true) :
    h.Goes fd v side senseless out := by
  cases hcarried with
  | failed hout => exact .failed hyes hc hout
  | done hout message => exact .done hyes hc hout _ _ message

/-- Something is made of what a transfer gives. -/
lemma Goes.map {out : Transfer α × World} (hgoes : h.Goes fd v side senseless out) (f : α → β) :
    h.Goes fd v side senseless (out.1.map f, out.2) := by
  cases hgoes with
  | refused operation hno => exact .refused operation hno
  | unreservable length message hyes => exact .unreservable length message hyes
  | failed hyes hc hout => exact .failed hyes hc hout
  | done hyes hc hout a told message => exact .done hyes hc hout (f a) told message
  | denied hyes hs hanswer message => exact .denied hyes hs hanswer message
  | used hyes hs hanswer a message => exact .used hyes hs hanswer (f a) message

/-- Where the conditions are the same, so is what becomes of a transfer. -/
lemma Goes.congr {senseless' : Prop} {out : Transfer α × World}
    (hgoes : h.Goes fd v side senseless out) (heq : senseless ↔ senseless') :
    h.Goes fd v side senseless' out := propext heq ▸ hgoes

/-- Where reading goes through a session, or is one call, it makes sense. -/
lemma not_unreadable {f : Features} (hsession : h.flags.tls.enabled = true → h.session ≠ none)
    (hslot : h.flags.tls.enabled = false → h.protocol = .udp → ∃ peer, side = some (.datagram peer))
    (hheader : h.flags.tls.enabled = false → h.protocol = .sctp → f.sctpMessages = true) :
    ¬ h.Unreadable f side := by
  rintro (⟨htls, hnone⟩ | ⟨htls, hp, hside⟩ | ⟨htls, hp, hf⟩)
  · exact hsession htls hnone
  · obtain ⟨peer, hpeer⟩ := hslot htls hp
    exact hside peer hpeer
  · exact Bool.noConfusion (hf.symm.trans (hheader htls hp))

/-- Where writing goes through a session, or is one call, it makes sense. -/
lemma not_unwritable {f : Features} (hsession : h.flags.tls.enabled = true → h.session ≠ none)
    (haim : h.flags.tls.enabled = false → h.protocol = .udp →
      ∃ peer, h.destination? side = .ok peer)
    (hheader : h.flags.tls.enabled = false → h.protocol = .sctp → f.sctpMessages = true) :
    ¬ h.Unwritable f side := by
  rintro (⟨htls, hnone⟩ | ⟨htls, hp, header, rfl⟩ | ⟨htls, hp, hside, hfar⟩ | ⟨htls, hp, hf⟩)
  · exact hsession htls hnone
  · obtain ⟨peer, hpeer⟩ := haim htls hp
    simp [destination?] at hpeer
  · obtain ⟨peer, hpeer⟩ := haim htls hp
    rcases side with _ | (_ | peer) | header <;> simp_all [destination?, SideData.peer?]
  · exact Bool.noConfusion (hf.symm.trans (hheader htls hp))

/-- What becomes of a read without encryption is what becomes of a transfer.

**Proof sketch.** By how the read went. In each case but the refusal there is a slot of the right
kind, so that the read makes sense, and it was one call. -/
lemma ReadsPlain.goes (htls : h.flags.tls.enabled = false) {buffer : Bytes} {flags : MessageFlags}
    {out : Transfer Reading × World} (hreads : h.ReadsPlain fd v buffer side flags out) :
    h.Goes fd v side (h.Unreadable v.features side) out := by
  cases hreads with
  | refused operation hno => exact .refused operation hno
  | datagram hp hside hcarried =>
    exact hcarried.goes (not_unreadable (by simp [htls]) (fun _ _ => ⟨_, hside⟩) (by simp [hp])) rfl
  | message hp hf hcarried =>
    exact hcarried.goes (not_unreadable (by simp [htls]) (by simp [hp]) fun _ _ => hf) rfl
  | stream hp hcarried =>
    refine hcarried.goes (not_unreadable (by simp [htls]) ?_ ?_) rfl <;>
      · intro _ hother
        rcases hp with hp | hp | hp <;> exact nomatch hp.symm.trans hother

/-- What becomes of a read is what becomes of a transfer.

**Proof sketch.** By how the read went. A session answers or denies, and either makes sense on an
encrypted handle; the rest is about reads without encryption (`ReadsPlain.goes`). -/
lemma Reads.goes {buffer : Bytes} {flags : MessageFlags} {out : Transfer Reading × World}
    (hreads : h.Reads fd v buffer side flags out) :
    h.Goes fd v side (h.Unreadable v.features side) out := by
  cases hreads with
  | unsecured htls hs => exact .refused _ (.unsecured htls hs)
  | @session s htls hs =>
    have hyes : ¬ h.Unreadable v.features side :=
      not_unreadable (by simp [hs]) (by simp [htls]) (by simp [htls])
    have hread := Tls.Session.Answers.read (s := s) buffer.length
    simp only [readSession, bind, StateT.bind, Net.note]
    cases hanswer : (s.takeRead buffer.length).1 with
    | error e => exact .denied hyes hs (by simpa [hanswer, Except.map] using hread) _
    | ok got => exact .used hyes hs (by simpa [hanswer, Except.map] using hread) _ _
  | plain htls hplain => exact hplain.goes htls

/-- What becomes of a write without encryption is what becomes of a transfer.

**Proof sketch.** By how the write went. In each case but the refusal the datagram has somewhere to
go and messages may carry headers, so that the write makes sense, and it was one call. -/
lemma WritesPlain.goes (htls : h.flags.tls.enabled = false) {data : Bytes} {flags : MessageFlags}
    {out : Transfer Nat × World} (hwrites : h.WritesPlain fd v data side flags out) :
    h.Goes fd v side (h.Unwritable v.features side) out := by
  cases hwrites with
  | refused operation hno => exact .refused operation hno
  | datagram hp hpeer hcarried =>
    exact hcarried.goes (not_unwritable (by simp [htls]) (fun _ _ => ⟨_, hpeer⟩) (by simp [hp])) rfl
  | message hp hf hcarried =>
    exact hcarried.goes (not_unwritable (by simp [htls]) (by simp [hp]) fun _ _ => hf) rfl
  | stream hp hcarried =>
    refine hcarried.goes (not_unwritable (by simp [htls]) ?_ ?_) rfl <;>
      · intro _ hother
        rcases hp with hp | hp | hp <;> exact nomatch hp.symm.trans hother

/-- What becomes of a write is what becomes of a transfer.

**Proof sketch.** By how the write went. A session answers or denies, and either makes sense on an
encrypted handle; the rest is about writes without encryption (`WritesPlain.goes`). -/
lemma Writes.goes {data : Bytes} {flags : MessageFlags} {out : Transfer Nat × World}
    (hwrites : h.Writes fd v data side flags out) :
    h.Goes fd v side (h.Unwritable v.features side) out := by
  cases hwrites with
  | unsecured htls hs => exact .refused _ (.unsecured htls hs)
  | @session s htls hs =>
    have hyes : ¬ h.Unwritable v.features side :=
      not_unwritable (by simp [hs]) (by simp [htls]) (by simp [htls])
    have hwrite := Tls.Session.Answers.write (s := s) data
    simp only [writeSession, bind, StateT.bind, Net.note]
    cases hanswer : (s.takeWrite data).1 with
    | error e => exact .denied hyes hs (hanswer ▸ hwrite) _
    | ok n => exact .used hyes hs (hanswer ▸ hwrite) _ _
  | plain htls hplain => exact hplain.goes htls

/-- **What becomes of a read**, as of a transfer. -/
theorem goes_read (hfd : h.descriptor = some fd) (v : World) (buffer : Bytes)
    (side : Option SideData) (flags : MessageFlags) :
    h.Goes fd v side (h.Unreadable v.features side) (h.read buffer side flags v) :=
  (reads_read hfd v buffer side flags).goes

/-- **What becomes of a write**, as of a transfer. -/
theorem goes_write (hfd : h.descriptor = some fd) (v : World) (data : Bytes)
    (side : Option SideData) (flags : MessageFlags) :
    h.Goes fd v side (h.Unwritable v.features side) (h.write data side flags v) :=
  (writes_write hfd v data side flags).goes

/-- **What becomes of a read that makes its own buffer**, as of a transfer. It makes no sense only
where the buffer can be had: else it is refused before anything else is looked at.

**Proof sketch.** By whether the buffer can be had. If it can, this is reading into it
(`goes_read`), and what is made of that; if it cannot, there is nothing but a record. -/
theorem goes_readVec (hfd : h.descriptor = some fd) (v : World) (length : Nat)
    (side : Option SideData) (flags : MessageFlags) :
    h.Goes fd v side (v.reservable length = true ∧ h.Unreadable v.features side)
      (h.readVec length side flags v) := by
  cases hl : v.reservable length with
  | true =>
    rw [readVec_of_reservable h hl]
    exact ((goes_read hfd v _ side flags).map _).congr (by simp)
  | false =>
    rw [readVec_of_unreservable h hl]
    exact .unreservable length _ (by simp)

/-- An operation transfers data on a handle, from whatever world. -/
def Transfers (h : Handle) (fd : Descriptor) (x : Net (Transfer α)) : Prop :=
  ∀ v, ∃ side senseless, h.Goes fd v side senseless (x v)

/-- Reading transfers data. -/
lemma transfers_read (hfd : h.descriptor = some fd) (buffer : Bytes) (side : Option SideData)
    (flags : MessageFlags) : h.Transfers fd (h.read buffer side flags) :=
  fun v => ⟨_, _, goes_read hfd v buffer side flags⟩

/-- Reading into a buffer made for it transfers data. -/
lemma transfers_readVec (hfd : h.descriptor = some fd) (length : Nat) (side : Option SideData)
    (flags : MessageFlags) : h.Transfers fd (h.readVec length side flags) :=
  fun v => ⟨_, _, goes_readVec hfd v length side flags⟩

/-- Writing transfers data. -/
lemma transfers_write (hfd : h.descriptor = some fd) (data : Bytes) (side : Option SideData)
    (flags : MessageFlags) : h.Transfers fd (h.write data side flags) :=
  fun v => ⟨_, _, goes_write hfd v data side flags⟩

end Handle

end Sockets
