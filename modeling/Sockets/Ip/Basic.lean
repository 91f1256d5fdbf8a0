import Sockets.Bytes

/-!
# Internet addresses

The two kinds of internet address, the octets each is made of, and the classes of address that
the rest of the library asks about.

## Main definitions

* `Sockets.Ipv4`, `Sockets.Ipv6`, `Sockets.Ip` — addresses of four octets, of eight groups of
  sixteen bits, and of either kind.
* `Sockets.Ipv6.mapped?`, `Sockets.Ipv6.embedded?` — the four-octet address that an address of
  eight groups carries.
* `Sockets.Ip.isMulticast` — whether an address names a group.
-/

set_option autoImplicit false

namespace Sockets

/-! ## Four octets -/

/-- An internet address of four octets. -/
structure Ipv4 where
  a : UInt8
  b : UInt8
  c : UInt8
  d : UInt8
  deriving DecidableEq, Repr, Inhabited

namespace Ipv4

/-- The octets of an address, in the order they are written. -/
def octets (ip : Ipv4) : Bytes := [ip.a, ip.b, ip.c, ip.d]

/-- The address of four octets. -/
def ofOctets? : Bytes → Option Ipv4
  | [a, b, c, d] => some ⟨a, b, c, d⟩
  | _ => none

/-- The wildcard `0.0.0.0`. -/
def unspecified : Ipv4 := ⟨0, 0, 0, 0⟩

/-- The loopback address `127.0.0.1`. -/
def loopback : Ipv4 := ⟨127, 0, 0, 1⟩

/-- The groups are `224.0.0.0/4`. -/
def isMulticast (ip : Ipv4) : Bool := ip.a >>> 4 == 0xE

end Ipv4

/-! ## Eight groups -/

/-- An internet address of eight groups of sixteen bits. -/
structure Ipv6 where
  g0 : UInt16
  g1 : UInt16
  g2 : UInt16
  g3 : UInt16
  g4 : UInt16
  g5 : UInt16
  g6 : UInt16
  g7 : UInt16
  deriving DecidableEq, Repr, Inhabited

namespace Ipv6

/-- The groups of an address, in the order they are written. -/
def groups (ip : Ipv6) : List UInt16 :=
  [ip.g0, ip.g1, ip.g2, ip.g3, ip.g4, ip.g5, ip.g6, ip.g7]

/-- The address of eight groups. -/
def ofGroups? : List UInt16 → Option Ipv6
  | [g0, g1, g2, g3, g4, g5, g6, g7] => some ⟨g0, g1, g2, g3, g4, g5, g6, g7⟩
  | _ => none

/-- An address is given by its groups. -/
theorem ofGroups?_groups (ip : Ipv6) : ofGroups? ip.groups = some ip := rfl

/-- The high and the low octet of a group. -/
def groupOctets (g : UInt16) : Bytes := [UInt8.ofNat (g.toNat / 256), UInt8.ofNat g.toNat]

/-- The group of a high and a low octet. -/
def groupOf (hi lo : UInt8) : UInt16 := UInt16.ofNat (256 * hi.toNat + lo.toNat)

/-- The sixteen octets of an address, in the order they are written. -/
def octets (ip : Ipv6) : Bytes := ip.groups.flatMap groupOctets

/-- The address of sixteen octets. -/
def ofOctets? : Bytes → Option Ipv6
  | [a, b, c, d, e, f, g, h, i, j, k, l, m, n, o, p] =>
    some ⟨groupOf a b, groupOf c d, groupOf e f, groupOf g h,
      groupOf i j, groupOf k l, groupOf m n, groupOf o p⟩
  | _ => none

/-- A group is given by its two octets. -/
theorem groupOf_groupOctets (g : UInt16) :
    groupOf (UInt8.ofNat (g.toNat / 256)) (UInt8.ofNat g.toNat) = g := by
  have hg : g.toNat < 65536 := g.toNat_lt
  apply UInt16.toNat_inj.mp
  simp only [groupOf, UInt16.toNat_ofNat', UInt8.toNat_ofNat']
  omega

/-- The wildcard `::`. -/
def unspecified : Ipv6 := ⟨0, 0, 0, 0, 0, 0, 0, 0⟩

/-- The loopback address `::1`. -/
def loopback : Ipv6 := ⟨0, 0, 0, 0, 0, 0, 0, 1⟩

/-- The groups are `ff00::/8`. -/
def isMulticast (ip : Ipv6) : Bool := ip.g0 >>> 8 == 0xFF

/-- The four-octet address of the last two groups. -/
def lastOctets (ip : Ipv6) : Ipv4 :=
  ⟨UInt8.ofNat (ip.g6.toNat / 256), UInt8.ofNat ip.g6.toNat,
    UInt8.ofNat (ip.g7.toNat / 256), UInt8.ofNat ip.g7.toNat⟩

/-- The address that carries a four-octet address behind five zero groups and `marker`. -/
def carrying (marker : UInt16) (ip : Ipv4) : Ipv6 :=
  ⟨0, 0, 0, 0, 0, marker, groupOf ip.a ip.b, groupOf ip.c ip.d⟩

/-- The four-octet address of a mapped address `::ffff:a.b.c.d`. -/
def mapped? (ip : Ipv6) : Option Ipv4 :=
  if ip.g0 = 0 ∧ ip.g1 = 0 ∧ ip.g2 = 0 ∧ ip.g3 = 0 ∧ ip.g4 = 0 ∧ ip.g5 = 0xFFFF
  then some ip.lastOctets else none

/-- The four-octet address that a mapped address or one of the form `::a.b.c.d` carries; the
wildcard and the loopback address carry none. -/
def embedded? (ip : Ipv6) : Option Ipv4 :=
  match ip.mapped? with
  | some v4 => some v4
  | none =>
    if ip.g0 = 0 ∧ ip.g1 = 0 ∧ ip.g2 = 0 ∧ ip.g3 = 0 ∧ ip.g4 = 0 ∧ ip.g5 = 0 ∧
        ip ≠ unspecified ∧ ip ≠ loopback
    then some ip.lastOctets else none

end Ipv6

/-! ## Either kind -/

/-- An internet address of either kind. -/
inductive Ip where
  | v4 (ip : Ipv4)
  | v6 (ip : Ipv6)
  deriving DecidableEq, Repr, Inhabited

namespace Ip

/-- Whether an address names a group of receivers. -/
def isMulticast : Ip → Bool
  | v4 ip => ip.isMulticast
  | v6 ip => ip.isMulticast

/-- The octets of an address. -/
def octets : Ip → Bytes
  | v4 ip => ip.octets
  | v6 ip => ip.octets

/-- The address of four or sixteen octets. -/
def ofOctets? (bs : Bytes) : Option Ip :=
  match Ipv4.ofOctets? bs with
  | some ip => some (v4 ip)
  | none => (Ipv6.ofOctets? bs).map v6

/-- The address that a reader of its text sees: a carried four-octet address stands for
itself. -/
def shown : Ip → Ip
  | v4 ip => v4 ip
  | v6 ip => match ip.embedded? with
    | some inner => v4 inner
    | none => v6 ip

end Ip

end Sockets
