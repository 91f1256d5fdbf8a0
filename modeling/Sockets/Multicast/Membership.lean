import Sockets.Ip.Printer
import Sockets.Multicast.Interface

/-!
# Membership in groups

Joining a group gives a membership, which remembers what was joined. A group is left on the
interface that the kernel picks, whatever interface it was joined through.

## Main definitions

* `Sockets.Membership` — a membership, with the group it is in.
* `Sockets.Membership.join`, `Sockets.Membership.leave` — joining and leaving on a descriptor.
-/

set_option autoImplicit false

namespace Sockets

open Text

/-- A membership in a group: the group, and the address and the index of the interface. -/
inductive Membership where
  | v4 (group interface : Ipv4) (index : UInt32)
  | v6 (group interface : Ipv6) (index : UInt32)
  deriving DecidableEq, Repr, Inhabited

namespace Membership

/-- The group of a membership. -/
def group : Membership → Ip
  | v4 group .. => .v4 group
  | v6 group .. => .v6 group

/-- The name of the kind of a membership, and the text of its parts. -/
def parts : Membership → String × String × String × String
  | v4 group interface index => ("V4", group.text, interface.text, toString index.toNat)
  | v6 group interface index => ("V6", group.text, interface.text, toString index.toNat)

/-- The text of a membership. -/
def text (m : Membership) : String :=
  let (_, group, interface, index) := m.parts
  let kind := match m with
    | v4 .. => "v4"
    | v6 .. => "v6"
  kind ++ " group=" ++ group ++ " interface=" ++ interface ++ " index=" ++ index

/-- The description of a membership. -/
def description (m : Membership) : String :=
  let (kind, group, interface, index) := m.parts
  Description.record kind
    [("group", group), ("interface_addr", interface), ("interface_index", index)]

/-- Join a group of four octets on a descriptor. -/
def join4 (fd : Descriptor) (group : Ipv4) (interface : Interface) : Attempt Error Membership := do
  let (address, index) ← interface.forIpv4
  let _ ← Net.require "IP_ADD_MEMBERSHIP" (.setsockopt fd (.join4 group address))
  pure (v4 group address index)

/-- Join a group of sixteen octets on a descriptor. -/
def join6 (fd : Descriptor) (group : Ipv6) (interface : Interface) : Attempt Error Membership := do
  let index ← interface.forIpv6
  let _ ← Net.require "IPV6_ADD_MEMBERSHIP" (.setsockopt fd (.join6 group index))
  pure (v6 group .unspecified index)

/-- Join the group of an address on a descriptor, through an interface. -/
def join (fd : Descriptor) (group : Address) (interface : Interface) :
    Attempt Error Membership := do
  let m ← match group.ip? with
    | none => Net.refuse .error "multicast join: unsupported family" .family
    | some (.v4 ip) => join4 fd ip interface
    | some (.v6 ip) => join6 fd ip interface
  Net.record .debug ("joined " ++ m.group.text ++ " via " ++ interface.text)
  pure m

/-- Leave the group of an address on a descriptor. -/
def leave (fd : Descriptor) (group : Address) : Attempt Error Unit :=
  match group.ip? with
  | none => throw .family
  | some (.v4 ip) => Net.require "IP_DROP_MEMBERSHIP" (.setsockopt fd (.leave4 ip .unspecified))
  | some (.v6 ip) => Net.require "IPV6_DROP_MEMBERSHIP" (.setsockopt fd (.leave6 ip 0))

end Membership

end Sockets
