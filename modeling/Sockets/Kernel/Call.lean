import Sockets.Address.Basic
import Sockets.Kernel.MessageFlags
import Sockets.Text.Fingerprint

/-!
# System calls

The calls that the library makes to the kernel, what each answers when it succeeds, and the text
of a call with its outcome.

## Main definitions

* `Sockets.SocketOption`, `Sockets.ControlMessage` — arguments of calls.
* `Sockets.Received` — what a receiver gets: a count, and octets in its buffer.
* `Sockets.Call` — a call with its arguments; `Sockets.Call.Answer` is the type of what it
  answers.
* `Sockets.CallKind` — the calls without their arguments.
* `Sockets.Call.outcomeText` — the text of a call and its outcome.
-/

set_option autoImplicit false

namespace Sockets

open Text

/-- A descriptor, by its number. -/
abbrev Descriptor := Nat

/-- An option of a socket with the value that it is set to. -/
inductive SocketOption where
  | reuseAddress
  | join4 (group interface : Ipv4)
  | leave4 (group interface : Ipv4)
  | join6 (group : Ipv6) (index : UInt32)
  | leave6 (group : Ipv6) (index : UInt32)
  | sctpInit (outStreams inStreams attempts timeout : UInt16)
  | sctpEvents (mask : Bytes)
  deriving DecidableEq, Repr

namespace SocketOption

/-- The dotted octets of an address. -/
def dotted (ip : Ipv4) : String :=
  String.intercalate "." (ip.octets.map fun b => toString b.toNat)

/-- The text of an option and its value. -/
def text : SocketOption → String
  | reuseAddress => "SO_REUSEADDR 1"
  | join4 group interface => "IP_ADD_MEMBERSHIP " ++ dotted group ++ " " ++ dotted interface
  | leave4 group interface => "IP_DROP_MEMBERSHIP " ++ dotted group ++ " " ++ dotted interface
  | join6 group index =>
    "IPV6_ADD_MEMBERSHIP " ++ Bytes.hex group.octets ++ " " ++ toString index.toNat
  | leave6 group index =>
    "IPV6_DROP_MEMBERSHIP " ++ Bytes.hex group.octets ++ " " ++ toString index.toNat
  | sctpInit o i a t => "SCTP_INITMSG " ++ toString o.toNat ++ " " ++ toString i.toNat ++ " " ++
      toString a.toNat ++ " " ++ toString t.toNat
  | sctpEvents mask => "SCTP_EVENTS " ++ Bytes.hex mask

end SocketOption

/-- Side data that travels with a message. -/
structure ControlMessage where
  level : Int
  type : Int
  data : Bytes
  deriving DecidableEq, Repr, Inhabited

namespace ControlMessage

/-- The text of side data. -/
def text (m : ControlMessage) : String :=
  toString m.level ++ "/" ++ toString m.type ++ "/" ++ Bytes.hex m.data

end ControlMessage

/-- What a receiver gets: the count that it is told, and the octets for its buffer. The count need
not be that of the octets. -/
structure Received where
  count : Nat
  data : Bytes
  deriving DecidableEq, Repr, Inhabited

namespace Received

/-- Octets with their own count. -/
def ofData (data : Bytes) : Received := ⟨data.length, data⟩

/-- A buffer after the octets have been put in at its front; what it has no room for is lost. -/
def fill (r : Received) (buffer : Bytes) : Bytes :=
  r.data.take buffer.length ++ buffer.drop r.data.length

end Received

/-- The calls to the kernel, without their arguments. -/
inductive CallKind where
  | socket
  | socketpair
  | bind
  | connect
  | listen
  | accept
  | getsockname
  | getpeername
  | setsockopt
  | recv
  | recvfrom
  | recvmsg
  | send
  | sendto
  | sendmsg
  | close
  | openFile
  | getaddrinfo
  | interfaceIndex
  | interfaceNames
  | interfaceAddresses
  deriving DecidableEq, Repr

namespace CallKind

/-- The name of a call. -/
def name : CallKind → String
  | socket => "socket"
  | socketpair => "socketpair"
  | bind => "bind"
  | connect => "connect"
  | listen => "listen"
  | accept => "accept"
  | getsockname => "getsockname"
  | getpeername => "getpeername"
  | setsockopt => "setsockopt"
  | recv => "recv"
  | recvfrom => "recvfrom"
  | recvmsg => "recvmsg"
  | send => "send"
  | sendto => "sendto"
  | sendmsg => "sendmsg"
  | close => "close"
  | openFile => "open"
  | getaddrinfo => "getaddrinfo"
  | interfaceIndex => "if_nametoindex"
  | interfaceNames => "if_nameindex"
  | interfaceAddresses => "getifaddrs"

/-- All calls, in the order of their declaration. -/
def all : List CallKind :=
  [socket, socketpair, bind, connect, listen, accept, getsockname, getpeername, setsockopt, recv,
    recvfrom, recvmsg, send, sendto, sendmsg, close, openFile, getaddrinfo, interfaceIndex,
    interfaceNames, interfaceAddresses]

/-- The call of a name. -/
def ofName? (s : String) : Option CallKind := all.find? fun k => k.name == s

/-- Whether a call moves data. -/
def movesData : CallKind → Bool
  | recv | recvfrom | recvmsg | send | sendto | sendmsg => true
  | _ => false

end CallKind

/-- A call to the kernel. -/
inductive Call where
  | socket (family : Family) (type : SocketType) (protocol : Int)
  | socketpair (family : Family) (type : SocketType) (protocol : Int)
  | bind (fd : Descriptor) (address : Address)
  | connect (fd : Descriptor) (address : Address)
  | listen (fd : Descriptor) (backlog : Int)
  | accept (fd : Descriptor)
  | getsockname (fd : Descriptor)
  | getpeername (fd : Descriptor)
  | setsockopt (fd : Descriptor) (option : SocketOption)
  | recv (fd : Descriptor) (length : Nat) (flags : MessageFlags)
  | recvfrom (fd : Descriptor) (length : Nat) (flags : MessageFlags)
  | recvmsg (fd : Descriptor) (length : Nat) (flags : MessageFlags)
  | send (fd : Descriptor) (data : Bytes) (flags : MessageFlags)
  | sendto (fd : Descriptor) (data : Bytes) (flags : MessageFlags) (peer : Address)
  | sendmsg (fd : Descriptor) (data : Bytes) (flags : MessageFlags) (control : List ControlMessage)
  | close (fd : Descriptor)
  | openFile (path : String)
  | getaddrinfo (host : String)
  | interfaceIndex (name : String)
  | interfaceNames
  | interfaceAddresses
  deriving DecidableEq, Repr

namespace Call

/-- A call without its arguments. -/
def kind : Call → CallKind
  | socket .. => .socket
  | socketpair .. => .socketpair
  | bind .. => .bind
  | connect .. => .connect
  | listen .. => .listen
  | accept .. => .accept
  | getsockname .. => .getsockname
  | getpeername .. => .getpeername
  | setsockopt .. => .setsockopt
  | recv .. => .recv
  | recvfrom .. => .recvfrom
  | recvmsg .. => .recvmsg
  | send .. => .send
  | sendto .. => .sendto
  | sendmsg .. => .sendmsg
  | close .. => .close
  | openFile .. => .openFile
  | getaddrinfo .. => .getaddrinfo
  | interfaceIndex .. => .interfaceIndex
  | interfaceNames => .interfaceNames
  | interfaceAddresses => .interfaceAddresses

/-- What a call answers when it succeeds. Name resolution has failures of its own, which are an
answer of the call. -/
@[reducible] def Answer : Call → Type
  | socket .. => Descriptor
  | socketpair .. => Descriptor × Descriptor
  | accept .. => Descriptor × Address
  | getsockname .. => Address
  | getpeername .. => Address
  | recv .. => Received
  | recvfrom .. => Received × Address
  | recvmsg .. => Received × List ControlMessage
  | send .. => Nat
  | sendto .. => Nat
  | sendmsg .. => Nat
  | openFile .. => Bytes
  | getaddrinfo .. => Except Int (List (Option Ip))
  | interfaceIndex .. => UInt32
  | interfaceNames => List (UInt32 × String)
  | interfaceAddresses => List (String × Option Address)
  | bind .. => Unit
  | connect .. => Unit
  | listen .. => Unit
  | setsockopt .. => Unit
  | close .. => Unit

/-- The text of a call and its arguments. -/
def text (c : Call) : String :=
  c.kind.name ++ match c with
  | socket family type protocol | socketpair family type protocol =>
    " " ++ family.text ++ " " ++ type.text ++ " " ++ toString protocol
  | bind fd address | connect fd address => " " ++ toString fd ++ " " ++ address.text
  | listen fd backlog => " " ++ toString fd ++ " " ++ toString backlog
  | accept fd | getsockname fd | getpeername fd | close fd => " " ++ toString fd
  | setsockopt fd option => " " ++ toString fd ++ " " ++ option.text
  | recv fd length flags | recvfrom fd length flags | recvmsg fd length flags =>
    " " ++ toString fd ++ " len=" ++ toString length ++ " flags=" ++ flags.text
  | send fd data flags =>
    " " ++ toString fd ++ " " ++ Fingerprint.dataText data ++ " flags=" ++ flags.text
  | sendto fd data flags peer =>
    " " ++ toString fd ++ " " ++ Fingerprint.dataText data ++ " flags=" ++ flags.text ++
      " to " ++ peer.text
  | sendmsg fd data flags control =>
    " " ++ toString fd ++ " " ++ Fingerprint.dataText data ++ " flags=" ++ flags.text ++
      " ctl=[" ++ String.intercalate "," (control.map ControlMessage.text) ++ "]"
  | openFile path => " " ++ path
  | getaddrinfo host => " " ++ host
  | interfaceIndex name => " " ++ name
  | interfaceNames | interfaceAddresses => ""

/-- The text of what a call answers. -/
def answerText : (c : Call) → c.Answer → String
  | socket .., fd => toString fd
  | socketpair .., (a, b) => toString a ++ " " ++ toString b
  | accept .., (fd, _) => toString fd
  | getsockname .., address => address.text
  | getpeername .., address => address.text
  | recv .., got => toString got.count
  | recvfrom .., (got, _) => toString got.count
  | recvmsg .., (got, _) => toString got.count
  | send .., n => toString n
  | sendto .., n => toString n
  | sendmsg .., n => toString n
  | openFile .., _ => "ok"
  | getaddrinfo .., .ok found => toString found.length
  | getaddrinfo .., .error code => "gai " ++ toString code
  | interfaceIndex .., index => toString index.toNat
  | interfaceNames, names => toString names.length
  | interfaceAddresses, addresses => toString addresses.length
  | bind .., () => "0"
  | connect .., () => "0"
  | listen .., () => "0"
  | setsockopt .., () => "0"
  | close .., () => "0"

/-- The text of a call and its outcome: what it answered, or the number of its error. -/
def outcomeText (c : Call) (outcome : Except Int c.Answer) : String :=
  c.text ++ " = " ++ match outcome with
  | .ok answer => c.answerText answer
  | .error n => "errno " ++ toString n

end Call

end Sockets
