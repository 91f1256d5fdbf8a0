import Sockets.Ip.Basic
import Sockets.Transport

/-!
# Socket addresses

What the kernel calls an address: an internet address with a port, the path or the abstract name
of a local socket, or octets of a family that the library does not look into.

## Main definitions

* `Sockets.Address` — an address, and `Sockets.Address.absent` for the empty one.
* `Sockets.Address.ip?`, `Sockets.Address.port?`, `Sockets.Address.family?` — its parts.
* `Sockets.Address.isMulticast?` — whether an internet address names a group.
* `Sockets.Address.ofIp` — the address of a port at an internet address.
* `Sockets.Address.unixPath?` — the address of a local socket, if the path fits.
* `Sockets.Address.ofRaw` — the address in a family number and the octets behind it.
-/

set_option autoImplicit false

namespace Sockets

/-- An address of a socket. The name of a local socket is the octets that the kernel keeps: a
path with the zero octet behind it, an abstract name behind a zero octet, or nothing. -/
inductive Address where
  | inet (ip : Ipv4) (port : UInt16)
  | inet6 (ip : Ipv6) (port : UInt16) (flow scope : UInt32)
  | unix (name : Bytes)
  | other (family : Nat)
  | absent
  deriving DecidableEq, Repr, Inhabited

namespace Address

/-- The address of a port at an internet address. -/
def ofIp (ip : Ip) (port : UInt16) : Address :=
  match ip with
  | .v4 ip => inet ip port
  | .v6 ip => inet6 ip port 0 0

/-- The internet address in an address. -/
def ip? : Address → Option Ip
  | inet ip _ => some (.v4 ip)
  | inet6 ip .. => some (.v6 ip)
  | _ => none

/-- The port of an internet address. -/
def port? : Address → Option UInt16
  | inet _ port => some port
  | inet6 _ port .. => some port
  | _ => none

/-- The family of an address, if a handle works with it. -/
def family? : Address → Option Family
  | inet .. => some .inet
  | inet6 .. => some .inet6
  | unix _ => some .unix
  | other _ | absent => none

/-- Whether an internet address names a group; other addresses have no answer. -/
def isMulticast? (a : Address) : Option Bool := a.ip?.map Ip.isMulticast

/-- A port at an internet address is at that internet address. -/
@[simp] theorem ip?_ofIp (ip : Ip) (port : UInt16) : (ofIp ip port).ip? = some ip := by
  cases ip <;> rfl

/-- A port at an internet address is that port. -/
@[simp] theorem port?_ofIp (ip : Ip) (port : UInt16) : (ofIp ip port).port? = some port := by
  cases ip <;> rfl

/-- The octets that the name of a local socket may take up. -/
def nameLimit : Nat := 108

/-- The address of a local socket. A path needs room for the zero octet behind it; an abstract
name starts with a zero octet and needs none. -/
def unixPath? (path : Bytes) : Option Address :=
  match path with
  | [] => some (unix [])
  | b :: _ =>
    if b = 0 then
      if path.length ≤ nameLimit then some (unix path) else none
    else if path.length < nameLimit then some (unix (path ++ [0])) else none

/-- The octets of a list, filled up with zeros to a given count. -/
def padded (count : Nat) (bs : Bytes) : Bytes := (bs ++ List.replicate count 0).take count

/-- The address in a family number and the octets behind it. Octets that an internet address
lacks are zero. -/
def ofRaw (family : Nat) (data : Bytes) : Address :=
  if family = Family.unix.domain then unix data
  else if family = Family.inet.domain then
    match padded 6 data with
    | [p, q, a, b, c, d] => inet ⟨a, b, c, d⟩ (Ipv6.groupOf p q)
    | _ => other family
  else if family = Family.inet6.domain then
    let all := padded 26 data
    match all.take 2, Ipv6.ofOctets? ((all.drop 6).take 16) with
    | [p, q], some ip =>
      inet6 ip (Ipv6.groupOf p q)
        (UInt32.ofNat (Bytes.littleValue ((all.drop 2).take 4)))
        (UInt32.ofNat (Bytes.littleValue ((all.drop 22).take 4)))
    | _, _ => other family
  else other family

/-- The text of an address in the journal. -/
def text : Address → String
  | inet ip port => "inet " ++ String.intercalate "." (ip.octets.map fun b => toString b.toNat)
      ++ " " ++ toString port.toNat
  | inet6 ip port flow scope => "inet6 " ++ Bytes.hex ip.octets ++ " " ++ toString port.toNat
      ++ " " ++ toString flow.toNat ++ " " ++ toString scope.toNat
  | unix name => "unix " ++ Bytes.hex name
  | other family => "family " ++ toString family
  | absent => "none"

end Address

end Sockets
