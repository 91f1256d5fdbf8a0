import Sockets.Kernel.Call

/-!
# The kernel

The kernel below the library: the open descriptors with what is queued on each, the names of
hosts, files and interfaces it knows, and a script of faults. It hands out descriptors and
automatic ports in rising order and never hands one out twice.

## Main definitions

* `Sockets.Socket` — what the kernel keeps for an open descriptor.
* `Sockets.Kernel` — the state of the kernel.
* `Sockets.Kernel.perform` — what a call answers and leaves behind.

## Main results

* `Sockets.Kernel.descriptors_opened`, `Sockets.Kernel.descriptors_closed` — what opening and
  closing do to the open descriptors.
-/

set_option autoImplicit false

namespace Sockets

/-- A message that waits on a socket. -/
structure Item where
  data : Bytes
  sender : Address
  control : List ControlMessage
  deriving DecidableEq, Repr, Inhabited

/-- What the kernel keeps for an open descriptor. -/
structure Socket where
  family : Family
  type : SocketType
  near : Option Address
  far : Option Address
  queue : List Item
  /-- Whether no more data will come. -/
  ended : Bool
  /-- The descriptor that receives what this one sends. -/
  twin : Option Descriptor
  deriving DecidableEq, Repr, Inhabited

/-- What a file holds, or the number of the error with which it fails to open. -/
inductive FileContent where
  | octets (bs : Bytes)
  | refused (errno : Int)
  deriving DecidableEq, Repr, Inhabited

/-- What the name service knows of a host: addresses, among them some that are no internet
addresses, or a failure by number of either kind. -/
inductive HostAnswer where
  | found (addresses : List (Option Ip))
  | failed (errno : Int)
  | unresolved (code : Int)
  deriving DecidableEq, Repr, Inhabited

/-- A network interface. -/
structure InterfaceEntry where
  name : String
  index : UInt32
  addresses : List (Option Address)
  deriving DecidableEq, Repr, Inhabited

/-- A connection that waits to be accepted. -/
structure Arrival where
  peer : Address
  near : Option Address
  deriving DecidableEq, Repr, Inhabited

/-- The state of the kernel. A scripted fault is zero for no fault, an error number if positive,
and the negated limit of what a data call moves if negative.

Kernels differ in what they do about a message that is too long for a receiver who asks for its
whole length, and about side data that is too long for a control buffer. -/
structure Kernel where
  /-- The open descriptors. -/
  sockets : List (Descriptor × Socket) := []
  nextDescriptor : Descriptor := 100
  nextPort : Nat := 40000
  faults : CallKind → List Int := fun _ => []
  arrivals : List Arrival := []
  nearNames : List (Option Address) := []
  farNames : List (Option Address) := []
  hosts : List (String × HostAnswer) := []
  files : List (String × FileContent) := []
  interfaces : List InterfaceEntry := []
  /-- The seconds since the beginning of the year 1970. -/
  clock : Nat := 0
  /-- What a receiver with room for so many octets of an item gets who asks for its whole length. -/
  whole : Socket → Nat → Bytes → Received := fun _ room data => ⟨data.length, data.take room⟩
  /-- Whether side data that does not fit is cut to the room there is, and not dropped. -/
  cutsControl : Bool := true

namespace Kernel

/-! ## Descriptors -/

/-- The socket of a descriptor, if it is open. -/
def socket? (k : Kernel) (fd : Descriptor) : Option Socket := k.sockets.lookup fd

/-- The open descriptors, in the order they were opened. -/
def descriptors (k : Kernel) : List Descriptor := k.sockets.map Prod.fst

/-- The kernel with the socket of a descriptor changed. -/
def modify (k : Kernel) (fd : Descriptor) (f : Socket → Socket) : Kernel :=
  { k with sockets := k.sockets.map fun (n, s) => if n = fd then (n, f s) else (n, s) }

/-- The kernel with a socket opened at the next descriptor. -/
def opened (k : Kernel) (s : Socket) : Kernel :=
  { k with
    sockets := k.sockets ++ [(k.nextDescriptor, s)]
    nextDescriptor := k.nextDescriptor + 1 }

/-- The kernel with a descriptor closed. -/
def closed (k : Kernel) (fd : Descriptor) : Kernel :=
  { k with sockets := k.sockets.filter fun (n, _) => n ≠ fd }

/-- Changing a socket opens and closes nothing. -/
@[simp] theorem descriptors_modify (k : Kernel) (fd : Descriptor) (f : Socket → Socket) :
    (k.modify fd f).descriptors = k.descriptors := by
  simp only [descriptors, modify, List.map_map]
  apply List.map_congr_left
  intro p _
  by_cases h : p.1 = fd <;> simp [h]

/-- Opening adds the next descriptor behind those open. -/
@[simp] theorem descriptors_opened (k : Kernel) (s : Socket) :
    (k.opened s).descriptors = k.descriptors ++ [k.nextDescriptor] := by
  simp [descriptors, opened]

/-- Closing removes the descriptor and no other. -/
@[simp] theorem descriptors_closed (k : Kernel) (fd : Descriptor) :
    (k.closed fd).descriptors = k.descriptors.filter (· ≠ fd) := by
  simp only [descriptors, closed, List.filter_map]
  rfl

/-! ## Faults -/

/-- The next scripted fault of a call, and the kernel without it. -/
def takeFault (k : Kernel) (c : CallKind) : Int × Kernel :=
  match k.faults c with
  | [] => (0, k)
  | f :: rest => (f, { k with faults := fun d => if d = c then rest else k.faults d })

/-- The most octets a data call moves under a scripted fault. -/
def limitOf (fault : Int) : Option Nat := if fault < 0 then some fault.natAbs else none

/-- A length under a limit. -/
def limited (limit : Option Nat) (n : Nat) : Nat :=
  match limit with
  | some m => min m n
  | none => n

/-! ## Addresses -/

/-- An address whose port zero, if it has one, is replaced by an automatic port. -/
def withPort (k : Kernel) : Address → Address × Kernel
  | .inet ip 0 => (.inet ip (UInt16.ofNat k.nextPort), { k with nextPort := k.nextPort + 1 })
  | .inet6 ip 0 flow scope =>
    (.inet6 ip (UInt16.ofNat k.nextPort) flow scope, { k with nextPort := k.nextPort + 1 })
  | a => (a, k)

/-- The near address that a socket without one gets when it connects. -/
def loopback : Family → Address
  | .inet => .inet .loopback 0
  | .inet6 => .inet6 .loopback 0 0 0
  | .unix => .unix []

/-- The near address that a socket without one reports. -/
def wildcard : Family → Address
  | .inet => .inet .unspecified 0
  | .inet6 => .inet6 .unspecified 0 0 0
  | .unix => .unix []

/-- The next scripted name and the script without it. -/
def takeName : List (Option Address) → Option Address × List (Option Address)
  | [] => (none, [])
  | a :: rest => (a, rest)

/-! ## Data -/

/-- What a receiver with room for `length` octets gets of the octets of an item. -/
def deliver (k : Kernel) (s : Socket) (length : Nat) (flags : MessageFlags) (data : Bytes) :
    Received :=
  if flags.truncates then k.whole s length data else .ofData (data.take length)

/-- What a socket gives a receiver with room for `length` octets: what the receiver gets, the item
that is from, and the socket with the octets taken. A stream keeps what is left of an item. -/
def take (k : Kernel) (s : Socket) (length : Nat) (flags : MessageFlags) :
    Except Int (Received × Item) × Socket :=
  match s.queue with
  | [] => if s.ended then (.ok (.ofData [], ⟨[], .absent, []⟩), s) else (.error 11, s)
  | item :: rest =>
    let left :=
      if flags.peeks then s.queue
      else if s.type = .stream ∧ length < item.data.length then
        { item with data := item.data.drop length } :: rest
      else rest
    (.ok (k.deliver s length flags item.data, item), { s with queue := left })

/-- The octets in front of side data in a control buffer. -/
def controlFront : Nat := 16

/-- The octets that side data takes up in a control buffer: a header, and the data rounded up. -/
def controlSpace (m : ControlMessage) : Nat := controlFront + (m.data.length + 7) / 8 * 8

/-- The side data that comes into a control buffer of `room` octets: message by message, up to the
first that does not fit, which a kernel may cut to the room there is. -/
def fitting (k : Kernel) (room : Nat) : List ControlMessage → List ControlMessage
  | [] => []
  | m :: ms =>
    if controlSpace m ≤ room then m :: k.fitting (room - controlSpace m) ms
    else if k.cutsControl ∧ controlFront ≤ room then
      [{ m with data := m.data.take (room - controlFront) }]
    else []

/-- The octets of a receiver's control buffer. -/
def controlRoom : Nat := 64

/-- Receiving on a descriptor. -/
def receive (k : Kernel) (fd : Descriptor) (length : Nat) (flags : MessageFlags)
    (limit : Option Nat) : Except Int (Received × Item) × Kernel :=
  match k.socket? fd with
  | none => (.error 9, k)
  | some s =>
    let (result, left) := k.take s (limited limit length) flags
    (result, k.modify fd fun _ => left)

/-- Sending on a descriptor: the count of octets sent, which queue on the twin if it has one. -/
def transmit (k : Kernel) (fd : Descriptor) (data : Bytes) (limit : Option Nat) :
    Except Int Nat × Kernel :=
  match k.socket? fd with
  | none => (.error 9, k)
  | some s =>
    let sent := data.take (limited limit data.length)
    match s.twin with
    | none => (.ok sent.length, k)
    | some twin =>
      let item : Item := ⟨sent, s.near.getD (wildcard s.family), []⟩
      (.ok sent.length, k.modify twin fun t => { t with queue := t.queue ++ [item] })

/-! ## Names -/

/-- What a file holds: a path without a file is refused with error 2. -/
def fileContent (k : Kernel) (path : String) : FileContent :=
  (k.files.lookup path).getD (.refused 2)

/-! ## Calls -/

/-- What a call does when no scripted error number stops it. -/
def answer (k : Kernel) (limit : Option Nat) : (c : Call) → Except Int c.Answer × Kernel
  | .socket family type _ =>
    (.ok k.nextDescriptor, k.opened ⟨family, type, none, none, [], false, none⟩)
  | .socketpair family type _ =>
    let a := k.nextDescriptor
    let b := a + 1
    let near := some (Address.unix [])
    let k := k.opened ⟨family, type, near, near, [], false, some b⟩
    (.ok (a, b), k.opened ⟨family, type, near, near, [], false, some a⟩)
  | .bind fd address =>
    match k.socket? fd with
    | none => (.error 9, k)
    | some _ =>
      let (near, k) := k.withPort address
      (.ok (), k.modify fd fun s => { s with near := some near })
  | .connect fd address =>
    match k.socket? fd with
    | none => (.error 9, k)
    | some s =>
      match s.near with
      | some _ => (.ok (), k.modify fd fun s => { s with far := some address })
      | none =>
        let (near, k) := k.withPort (loopback s.family)
        (.ok (), k.modify fd fun s => { s with near := some near, far := some address })
  | .listen fd _ =>
    match k.socket? fd with
    | none => (.error 9, k)
    | some _ => (.ok (), k)
  | .accept fd =>
    match k.socket? fd, k.arrivals with
    | none, _ => (.error 9, k)
    | some _, [] => (.error 11, k)
    | some s, arrival :: rest =>
      let near := match arrival.near with
        | some a => some a
        | none => s.near
      let new : Socket := ⟨s.family, s.type, near, some arrival.peer, [], false, none⟩
      (.ok (k.nextDescriptor, arrival.peer), { k.opened new with arrivals := rest })
  | .getsockname fd =>
    match k.socket? fd with
    | none => (.error 9, k)
    | some s =>
      let (name, rest) := takeName k.nearNames
      (.ok (name.getD (s.near.getD (wildcard s.family))), { k with nearNames := rest })
  | .getpeername fd =>
    match k.socket? fd with
    | none => (.error 9, k)
    | some s =>
      let (name, rest) := takeName k.farNames
      let k := { k with farNames := rest }
      match name, s.far with
      | some a, _ => (.ok a, k)
      | none, some a => (.ok a, k)
      | none, none => (.error 107, k)
  | .setsockopt fd _ =>
    match k.socket? fd with
    | none => (.error 9, k)
    | some _ => (.ok (), k)
  | .recv fd length flags =>
    let (result, k) := k.receive fd length flags limit
    (result.map fun (got, _) => got, k)
  | .recvfrom fd length flags =>
    let (result, k) := k.receive fd length flags limit
    (result.map fun (got, item) => (got, item.sender), k)
  | .recvmsg fd length flags =>
    let (result, k) := k.receive fd length flags limit
    (result.map fun (got, item) => (got, k.fitting controlRoom item.control), k)
  | .send fd data _ => k.transmit fd data limit
  | .sendto fd data _ _ => k.transmit fd data limit
  | .sendmsg fd data _ _ => k.transmit fd data limit
  | .close fd =>
    match k.socket? fd with
    | none => (.error 9, k)
    | some _ => (.ok (), k.closed fd)
  | .openFile path =>
    match k.fileContent path with
    | .octets bs => (.ok bs, k)
    | .refused n => (.error n, k)
  | .getaddrinfo host =>
    match (k.hosts.lookup host).getD (.unresolved (-2)) with
    | .found addresses => (.ok (.ok addresses), k)
    | .failed n => (.error n, k)
    | .unresolved code => (.ok (.error code), k)
  | .interfaceIndex name =>
    match k.interfaces.find? fun i => i.name = name with
    | some i => (.ok i.index, k)
    | none => (.error 19, k)
  | .interfaceNames => (.ok (k.interfaces.map fun i => (i.index, i.name)), k)
  | .interfaceAddresses =>
    (.ok (k.interfaces.flatMap fun i => i.addresses.map fun a => (i.name, a)), k)

/-- What a call leaves behind when a scripted error number stops it: nothing changes, but a
descriptor is closed even so. -/
def stopped (k : Kernel) : Call → Kernel
  | .close fd => k.closed fd
  | _ => k

/-- What a call answers and leaves behind. A scripted fault is taken before anything else. -/
def perform (k : Kernel) (c : Call) : Except Int c.Answer × Kernel :=
  let (fault, k) := k.takeFault c.kind
  if 0 < fault then (.error fault, k.stopped c) else k.answer (limitOf fault) c

end Kernel

end Sockets
