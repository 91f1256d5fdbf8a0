/-!
# Families, socket types and transports

The kernel names the family of an address, the type of a socket and the transport protocol by
numbers. A handle names its transport by a `Protocol`, which settles the socket type and the
transport number that are asked for.

## Main definitions

* `Sockets.Family` — the address families a handle works with, and their numbers.
* `Sockets.SocketType` — a socket type by its number, with the named ones.
* `Sockets.Protocol` — the transport a handle was made for.
-/

set_option autoImplicit false

namespace Sockets

/-! ## Families -/

/-- The address families that a handle works with. -/
inductive Family where
  | inet
  | inet6
  | unix
  deriving DecidableEq, Repr, Inhabited

namespace Family

/-- The number of a family. -/
def domain : Family → Nat
  | unix => 1
  | inet => 2
  | inet6 => 10

/-- The family of a number. -/
def ofDomain? : Nat → Option Family
  | 1 => some unix
  | 2 => some inet
  | 10 => some inet6
  | _ => none

/-- The word for a family in a system call. -/
def text : Family → String
  | inet => "inet"
  | inet6 => "inet6"
  | unix => "unix"

/-- The word for a family in a query and an answer. -/
def label : Family → String
  | inet => "inet"
  | inet6 => "inet6"
  | unix => "local"

/-- The name of a family in descriptions of values. -/
def tag : Family → String
  | inet => "Inet"
  | inet6 => "Inet6"
  | unix => "Local"

end Family

/-! ## Socket types -/

/-- A socket type, by its number. -/
structure SocketType where
  number : Int
  deriving DecidableEq, Repr, Inhabited

namespace SocketType

/-- A sequenced, reliable stream of octets. -/
def stream : SocketType := ⟨1⟩

/-- Messages of limited size, delivered one by one or not at all. -/
def dgram : SocketType := ⟨2⟩

/-- Access to the network protocol itself. -/
def raw : SocketType := ⟨3⟩

/-- A sequenced, reliable exchange of messages. -/
def seqpacket : SocketType := ⟨5⟩

/-- The word for a socket type in the journal: its name, or its number if it has none. -/
def text (t : SocketType) : String :=
  if t = stream then "stream"
  else if t = dgram then "dgram"
  else if t = raw then "raw"
  else if t = seqpacket then "seqpacket"
  else toString t.number

end SocketType

/-! ## Transports -/

/-- The number of the transmission control protocol. -/
def tcpNumber : Int := 6

/-- The number of the user datagram protocol. -/
def udpNumber : Int := 17

/-- The number of the stream control transmission protocol. -/
def sctpNumber : Int := 132

/-- The transport a handle was made for; it stays the same while the handle lives. -/
inductive Protocol where
  | unspecified
  | tcp
  | udp
  | sctp
  | unix
  deriving DecidableEq, Repr, Inhabited

namespace Protocol

/-- The socket type to ask for; none leaves it to the resolver. -/
def socketType? : Protocol → Option SocketType
  | unspecified => none
  | tcp | sctp | unix => some .stream
  | udp => some .dgram

/-- The transport number to ask for. -/
def number? : Protocol → Option Int
  | tcp => some tcpNumber
  | udp => some udpNumber
  | sctp => some sctpNumber
  | unspecified | unix => none

/-- The name of a transport in messages. -/
def text : Protocol → String
  | unspecified => "unspecified"
  | tcp => "TCP"
  | udp => "UDP"
  | sctp => "SCTP"
  | unix => "local"

/-- The name of a transport in descriptions of values. -/
def tag : Protocol → String
  | unspecified => "None"
  | tcp => "Tcp"
  | udp => "Udp"
  | sctp => "Sctp"
  | unix => "Local"

end Protocol

end Sockets
