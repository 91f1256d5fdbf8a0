import Sockets.Handle.Basic
import Sockets.Sctp.Header

/-!
# Reading and writing

An encrypted handle reads and writes through its session, any other by one system call of the
kind that belongs to its transport. Datagrams and messages of SCTP travel with side data, which
the caller gives to a write and gets from a read.

## Main definitions

* `Sockets.SideData` — the side data of a transfer.
* `Sockets.Transfer` — how a read or a write ended, with the side data and the handle after it.
* `Sockets.Reading` — what a read gives: a count, and the buffer after it.
* `Sockets.Handle.read`, `Sockets.Handle.readVec`, `Sockets.Handle.write` — transfers.

## Main results

* `Sockets.Handle.readVec_of_reservable`, `Sockets.Handle.readVec_of_unreservable` — a buffer of
  zeros is read into and cut to the count; one that cannot be had is refused before any call.
-/

set_option autoImplicit false

namespace Sockets

/-- The side data of a transfer: the peer of a datagram, or the header of a message. -/
inductive SideData where
  | datagram (peer : Option Address)
  | sctp (header : Sctp.Header)
  deriving DecidableEq, Repr, Inhabited

namespace SideData

/-- The peer in side data. -/
def peer? : SideData → Option Address
  | datagram peer => peer
  | sctp _ => none

end SideData

/-- How a transfer ended, with the caller's side data and the handle after it. -/
structure Transfer (α : Type) where
  result : Except Error α
  side : Option SideData
  handle : Handle

/-- A transfer with something made of what it gives. -/
def Transfer.map {α β : Type} (f : α → β) (t : Transfer α) : Transfer β :=
  ⟨t.result.map f, t.side, t.handle⟩

/-- What a read gives: the count that it returns, and the caller's buffer after it. The count may be
larger than the buffer is long. -/
structure Reading where
  count : Nat
  buffer : Bytes
  deriving DecidableEq, Repr, Inhabited

namespace Reading

/-- What a receiver with a buffer has from what it got. -/
def ofReceived (buffer : Bytes) (got : Received) : Reading := ⟨got.count, got.fill buffer⟩

/-- The buffer cut to the count. -/
def octets (r : Reading) : Bytes := r.buffer.take r.count

end Reading

namespace Handle

/-! ## Failures and records -/

/-- A transfer that is refused. -/
def refused {α : Type} (h : Handle) (side : Option SideData) (operation : String) : Transfer α :=
  ⟨.error (.misuse h.protocol operation), side, h⟩

/-- The level at which the failure of a transfer is recorded. -/
def failureLevel (f : Fault) : Level := if f.isTimeout then .debug else .error

/-- A transfer whose system call failed; `name` names the call. -/
def transferFailed {α : Type} (h : Handle) (side : Option SideData) (name : String) (n : Int) :
    Net (Transfer α) := do
  let f := Fault.os n
  Net.record (failureLevel f) (h.name ++ ": " ++ name ++ ": " ++ f.message)
  pure ⟨.error (.system name f), side, h⟩

/-- A transfer that succeeded, with a record of it. -/
def transferred {α : Type} (h : Handle) (side : Option SideData) (a : α) (what : String) :
    Net (Transfer α) := do
  Net.record .verbose (h.name ++ ": " ++ what)
  pure ⟨.ok a, side, h⟩

/-- The count of octets in a record. -/
def octetCount (n : Nat) : String := toString n ++ " bytes"

/-- The failure of a transfer on a handle without a descriptor. -/
def notOpen {α : Type} (h : Handle) (side : Option SideData) : Transfer α :=
  ⟨.error (.system "descriptor" (.plain .notConnected)), side, h⟩

/-! ## Reading -/

/-- Read through the session of a handle. -/
def readSession (h : Handle) (fd : Descriptor) (s : Tls.Session) (buffer : Bytes)
    (side : Option SideData) : Net (Transfer Reading) := do
  let (answer, s) := s.takeRead buffer.length
  let h := { h with session := some s }
  Net.note (.tls fd (.read buffer.length) (.ofCount (answer.map Received.count)))
  match answer with
  | .ok got =>
    transferred h side (.ofReceived buffer got) ("read " ++ octetCount got.count ++ " (TLS)")
  | .error e =>
    Net.record .error (h.name ++ ": TLS read: " ++ e.message)
    pure ⟨.error (.tls e), side, h⟩

/-- Read a datagram; the slot of the caller receives its sender. -/
def readDatagram (h : Handle) (fd : Descriptor) (buffer : Bytes) (side : Option SideData)
    (flags : MessageFlags) : Net (Transfer Reading) := do
  match ← Net.syscall (.recvfrom fd buffer.length flags) with
  | .error n => transferFailed h side "recvfrom" n
  | .ok (answer : Received × Address) =>
    let (got, sender) := answer
    transferred h (some (.datagram (some sender))) (.ofReceived buffer got)
      ("read " ++ octetCount got.count ++ " from " ++ sender.describe)

/-- Read a message of SCTP; the slot of the caller receives its header, if it has one. -/
def readMessage (h : Handle) (fd : Descriptor) (buffer : Bytes) (side : Option SideData)
    (flags : MessageFlags) : Net (Transfer Reading) := do
  match ← Net.syscall (.recvmsg fd buffer.length flags) with
  | .error n => transferFailed h side "recvmsg" n
  | .ok (answer : Received × List ControlMessage) =>
    let (got, control) := answer
    let side := match side, Sctp.Header.find? control with
      | some (.sctp _), some header => some (.sctp header)
      | side, _ => side
    transferred h side (.ofReceived buffer got) ("read " ++ octetCount got.count ++ " (SCTP)")

/-- Read from a stream. -/
def readStream (h : Handle) (fd : Descriptor) (buffer : Bytes) (side : Option SideData)
    (flags : MessageFlags) : Net (Transfer Reading) := do
  match ← Net.syscall (.recv fd buffer.length flags) with
  | .error n => transferFailed h side "recv" n
  | .ok (got : Received) =>
    transferred h side (.ofReceived buffer got) ("read " ++ octetCount got.count)

/-- Read into a buffer without encryption. -/
def readPlain (h : Handle) (fd : Descriptor) (buffer : Bytes) (side : Option SideData)
    (flags : MessageFlags) : Net (Transfer Reading) := do
  match h.protocol with
  | .udp =>
    match side with
    | some (.datagram _) => readDatagram h fd buffer side flags
    | _ => pure (h.refused side "read without a source address slot")
  | .tcp | .unix | .unspecified => readStream h fd buffer side flags
  | .sctp =>
    if (← Net.setting).features.sctpMessages then readMessage h fd buffer side flags
    else pure (h.refused side "read")

/-- Read into a buffer. -/
def read (h : Handle) (buffer : Bytes) (side : Option SideData) (flags : MessageFlags) :
    Net (Transfer Reading) :=
  if h.flags.tls.enabled then
    match h.descriptor, h.session with
    | some fd, some s => readSession h fd s buffer side
    | _, _ => pure (h.refused side "read before TLS negotiation")
  else
    match h.descriptor with
    | some fd => readPlain h fd buffer side flags
    | none => pure (notOpen h side)

/-- A buffer of so many zeros. -/
def zeroed (length : Nat) : Bytes := List.replicate length 0

/-- Read at most `length` octets: into a buffer of zeros, which is cut to the count. -/
def readVec (h : Handle) (length : Nat) (side : Option SideData) (flags : MessageFlags) :
    Net (Transfer Bytes) := do
  if (← Net.setting).reservable length then
    let done ← h.read (zeroed length) side flags
    pure (done.map Reading.octets)
  else
    Net.record .fatal
      (h.name ++ ": cannot reserve " ++ toString length ++ " byte read buffer")
    pure ⟨.error (.allocation length), side, h⟩

/-- A buffer of zeros that can be had is read into, and cut to the count. -/
theorem readVec_of_reservable (h : Handle) {length : Nat} {w : World}
    (hl : w.reservable length = true) (side : Option SideData) (flags : MessageFlags) :
    h.readVec length side flags w =
      (((h.read (zeroed length) side flags w).1).map Reading.octets,
        (h.read (zeroed length) side flags w).2) := by
  simp only [readVec, bind, StateT.bind, Net.setting, hl, if_true]
  rfl

/-- A buffer that cannot be had is refused before any call, with a record. -/
theorem readVec_of_unreservable (h : Handle) {length : Nat} {w : World}
    (hl : w.reservable length = false) (side : Option SideData) (flags : MessageFlags) :
    h.readVec length side flags w = (⟨.error (.allocation length), side, h⟩,
      w.noting (.record w.sink .fatal
        (h.name ++ ": cannot reserve " ++ toString length ++ " byte read buffer"))) := by
  simp only [readVec, bind, StateT.bind, Net.setting, hl]
  rfl

/-! ## Writing -/

/-- Write through the session of a handle. -/
def writeSession (h : Handle) (fd : Descriptor) (s : Tls.Session) (data : Bytes)
    (side : Option SideData) : Net (Transfer Nat) := do
  let (answer, s) := s.takeWrite data
  let h := { h with session := some s }
  Net.note (.tls fd (.write data) (.ofCount answer))
  match answer with
  | .ok n => transferred h side n ("wrote " ++ octetCount n ++ " (TLS)")
  | .error e =>
    Net.record .error (h.name ++ ": TLS write: " ++ e.message)
    pure ⟨.error (.tls e), side, h⟩

/-- Where a datagram goes: to the peer that the caller names, or to the far address. -/
def destination? (h : Handle) (side : Option SideData) : Except String Address :=
  match side with
  | some (.datagram (some peer)) => .ok peer
  | some (.sctp _) => .error "write with an SCTP header"
  | some (.datagram none) | none =>
    match h.far.address with
    | some a => .ok a
    | none => .error "write without a destination"

/-- Write a datagram. -/
def writeDatagram (h : Handle) (fd : Descriptor) (data : Bytes) (side : Option SideData)
    (flags : MessageFlags) : Net (Transfer Nat) := do
  match h.destination? side with
  | .error operation => pure (h.refused side operation)
  | .ok peer =>
    match ← Net.syscall (.sendto fd data flags peer) with
    | .error n => transferFailed h side "sendto" n
    | .ok (n : Nat) => transferred h side n ("wrote " ++ octetCount n ++ " to " ++ peer.describe)

/-- The header that a message of SCTP is sent with. -/
def headerFor : Option SideData → Sctp.Header
  | some (.sctp header) => header
  | _ => {}

/-- Write a message of SCTP. -/
def writeMessage (h : Handle) (fd : Descriptor) (data : Bytes) (side : Option SideData)
    (flags : MessageFlags) : Net (Transfer Nat) := do
  let header := headerFor side
  match ← Net.syscall (.sendmsg fd data flags [header.control]) with
  | .error n => transferFailed h side "sendmsg" n
  | .ok (n : Nat) =>
    let stream := toString header.stream.toNat
    transferred h side n ("wrote " ++ octetCount n ++ " (SCTP stream " ++ stream ++ ")")

/-- Write to a stream. -/
def writeStream (h : Handle) (fd : Descriptor) (data : Bytes) (side : Option SideData)
    (flags : MessageFlags) : Net (Transfer Nat) := do
  match ← Net.syscall (.send fd data flags) with
  | .error n => transferFailed h side "send" n
  | .ok (n : Nat) => transferred h side n ("wrote " ++ octetCount n)

/-- Write octets without encryption. -/
def writePlain (h : Handle) (fd : Descriptor) (data : Bytes) (side : Option SideData)
    (flags : MessageFlags) : Net (Transfer Nat) := do
  match h.protocol with
  | .udp => writeDatagram h fd data side flags
  | .tcp | .unix | .unspecified => writeStream h fd data side flags
  | .sctp =>
    if (← Net.setting).features.sctpMessages then writeMessage h fd data side flags
    else pure (h.refused side "write")

/-- Write octets. -/
def write (h : Handle) (data : Bytes) (side : Option SideData) (flags : MessageFlags) :
    Net (Transfer Nat) :=
  if h.flags.tls.enabled then
    match h.descriptor, h.session with
    | some fd, some s => writeSession h fd s data side
    | _, _ => pure (h.refused side "write before TLS negotiation")
  else
    match h.descriptor with
    | some fd => writePlain h fd data side flags
    | none => pure (notOpen h side)

end Handle

end Sockets
