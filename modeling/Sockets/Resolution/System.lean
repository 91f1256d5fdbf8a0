import Sockets.Ip.Parser
import Sockets.Services.Lookup

/-!
# Resolution by the system

A host is a literal, a name for the name service, or nothing, which listeners take for every
address of the machine. A service is a port, a name for the services database, or nothing. Every
address is combined with every socket type that is asked for.

## Main definitions

* `Sockets.System.socketTypes` — the socket types to try.
* `Sockets.System.port`, `Sockets.System.addresses` — the port of a service and the addresses of
  a host.
* `Sockets.System.product` — the candidates of addresses and socket types.
* `Sockets.System.resolve` — the candidates of a query.
-/

set_option autoImplicit false

namespace Sockets

namespace System

/-! ## Socket types -/

/-- The socket types to try: streams and datagrams when none is asked for. -/
def socketTypes : Option SocketType → Except ResolveError (List SocketType)
  | none => .ok [.stream, .dgram]
  | some t =>
    if t = .stream ∨ t = .dgram ∨ t = .seqpacket then .ok [t] else .error .socketType

/-- The transport that goes with a socket type when none is asked for. -/
def defaultProtocol (t : SocketType) : Option Int :=
  if t = .stream then some tcpNumber
  else if t = .dgram then some udpNumber
  else none

/-- The word under which the services database lists a transport. -/
def transportWord (type : Option SocketType) (protocol : Option Int) : String :=
  if protocol = some udpNumber ∨ type = some .dgram then "udp"
  else if protocol = none ∨ protocol = some tcpNumber then "tcp"
  else "sctp"

/-! ## Ports -/

/-- The port of a named service. A service of SCTP may be listed under TCP only. -/
def namedPort (service transport : String) : Attempt ResolveError UInt16 := do
  match ← Net.servicePort? service transport with
  | some port => pure port
  | none =>
    let second ← if transport = "sctp" then Net.servicePort? service "tcp" else pure none
    match second with
    | some port => pure port
    | none => throw (.noName (service ++ "/" ++ transport))

/-- The port of a service: zero for none, a number as it stands, or what the database lists. -/
def port (service : Option String) (hints : Hints) : Attempt ResolveError UInt16 :=
  match service with
  | none => pure 0
  | some s =>
    if s = "" then pure 0
    else match Text.Decimal.word? s.toList with
      | some n => pure n
      | none => namedPort s (transportWord hints.type hints.protocol)

/-! ## Addresses -/

/-- Whether an address is of a family that is asked for. -/
def fits (family : Option Family) : Ip → Bool
  | .v4 _ => family = none || family = some .inet
  | .v6 _ => family = none || family = some .inet6

/-- The addresses that stand for every address of the machine. -/
def wildcards : Option Family → List Ip
  | some .inet => [.v4 .unspecified]
  | some .inet6 => [.v6 .unspecified]
  | _ => [.v6 .unspecified, .v4 .unspecified]

/-- Of the answers of the name service, the addresses of the family that is asked for, each
once. -/
def selected (family : Option Family) (found : List (Option Ip)) : List Ip :=
  ((found.filterMap id).filter (fits family)).eraseDups

/-- The addresses that the name service knows for a host. -/
def namedAddresses (host : String) (family : Option Family) : Attempt ResolveError (List Ip) := do
  if host.toList.contains '\x00' then throw (.noName host)
  match ← Net.syscall (.getaddrinfo host) with
  | .error n => throw (.system (.os n))
  | .ok (answer : Except Int (List (Option Ip))) =>
    match answer with
    | .error _ => throw (.noName host)
    | .ok found =>
      let ips := selected family found
      if ips = [] then throw .family else pure ips

/-- The addresses of a host. -/
def addresses (host : Option String) (hints : Hints) : Attempt ResolveError (List Ip) :=
  let named := match host with
    | some h => if h = "" then none else some h
    | none => none
  match named with
  | none =>
    if hints.passive then pure (wildcards hints.family)
    else throw (.noName "no host given for an active lookup")
  | some h =>
    match Ip.literal? h with
    | some ip => if fits hints.family ip then pure [ip] else throw .family
    | none => namedAddresses h hints.family

/-! ## Candidates -/

/-- The family of an address. -/
def familyOf : Ip → Family
  | .v4 _ => .inet
  | .v6 _ => .inet6

/-- The candidate of an address and a socket type. -/
def candidate (protocol : Option Int) (port : UInt16) (ip : Ip) (t : SocketType) : Candidate :=
  ⟨familyOf ip, t, protocol.or (defaultProtocol t), .ofIp ip port⟩

/-- The candidates of addresses and socket types, the types of an address side by side. -/
def product (protocol : Option Int) (port : UInt16) (ips : List Ip) (types : List SocketType) :
    List Candidate :=
  ips.flatMap fun ip => types.map fun t => candidate protocol port ip t

/-- The candidates of a query. -/
def resolve (q : Query) : Attempt ResolveError (List Candidate) := do
  if q.hints.family = some .unix then throw .family
  let types ← socketTypes q.hints.type
  let port ← port q.service q.hints
  let ips ← addresses q.host q.hints
  pure (product q.hints.protocol port ips types)

end System

end Sockets
