import Sockets.Text.Description
import Sockets.World

/-!
# Interfaces for groups

A group is joined through an interface: the one that the kernel picks, or one given by name or
by index. The kernel wants the address of the interface for addresses of four octets, and its
index for those of eight groups.

## Main definitions

* `Sockets.Interface` — a choice of interface, with `Sockets.Interface.select`.
* `Sockets.Interface.forIpv4`, `Sockets.Interface.forIpv6` — what the kernel is told.
-/

set_option autoImplicit false

namespace Sockets

open Text

/-- A choice of interface. -/
inductive Interface where
  /-- Whichever the kernel picks. -/
  | any
  | named (name : String)
  | numbered (index : UInt32)
  deriving DecidableEq, Repr, Inhabited

namespace Interface

/-- The choice that a name and an index make. -/
def select (name : Option String) (index : Option UInt32) : Interface :=
  match index, name with
  | some i, _ => numbered i
  | none, some n => named n
  | none, none => any

/-- The text of a choice. -/
def text : Interface → String
  | any => "default interface"
  | named name => "interface " ++ name
  | numbered index => "interface #" ++ toString index.toNat

/-- The description of a choice. -/
def description : Interface → String
  | any => "Default"
  | named name => Description.carrying "Name" (Quoted.text name)
  | numbered index => Description.carrying "Index" (toString index.toNat)

/-! ## Queries -/

/-- The index of the interface of a name. -/
def indexOf (name : String) : Attempt Error UInt32 := do
  let unknown : Attempt Error UInt32 :=
    Net.refuse .error ("no interface named " ++ name) (.unknownInterface name)
  if name.toList.contains '\x00' then unknown
  else match ← Net.syscall (.interfaceIndex name) with
    | .ok (index : UInt32) => if index = 0 then unknown else pure index
    | .error _ => unknown

/-- The part of a list of interfaces that counts: what stands before the index zero. -/
def listed (names : List (UInt32 × String)) : List (UInt32 × String) :=
  names.takeWhile fun (index, _) => index != 0

/-- The name of the interface of an index. -/
def nameOf (index : UInt32) : Attempt Error String := do
  match ← Net.syscall .interfaceNames with
  | .error n =>
    Net.refuse .error ("interface enumeration failed: " ++ Errno.symbolic n)
      (.ofInterfaceErrno n)
  | .ok (names : List (UInt32 × String)) =>
    match (listed names).lookup index with
    | some name => pure name
    | none =>
      let number := toString index.toNat
      Net.refuse .error ("no interface with index " ++ number) (.unknownInterface number)

/-- The first address of four octets that is listed for an interface. -/
def firstIpv4 (name : String) (addresses : List (String × Option Address)) : Option Ipv4 :=
  addresses.findSome? fun (owner, address) =>
    match address with
    | some (.inet ip _) => if owner = name then some ip else none
    | _ => none

/-- The address of four octets of the interface of a name. -/
def addressOf (name : String) : Attempt Error Ipv4 := do
  match ← Net.syscall .interfaceAddresses with
  | .error n =>
    Net.refuse .error ("interface address query failed: " ++ Errno.symbolic n)
      (.ofInterfaceErrno n)
  | .ok (addresses : List (String × Option Address)) =>
    match firstIpv4 name addresses with
    | some ip => pure ip
    | none =>
      Net.refuse .error ("interface " ++ name ++ " has no IPv4 address")
        (.interfaceQuery (.plain .addrNotAvailable))

/-- The address and the index of an interface, for groups with addresses of four octets. -/
def forIpv4 : Interface → Attempt Error (Ipv4 × UInt32)
  | any => pure (.unspecified, 0)
  | named name => do
    let index ← indexOf name
    let address ← addressOf name
    pure (address, index)
  | numbered index => do
    let name ← nameOf index
    let address ← addressOf name
    pure (address, index)

/-- The index of an interface, for groups with addresses of sixteen octets. -/
def forIpv6 : Interface → Attempt Error UInt32
  | any => pure 0
  | named name => indexOf name
  | numbered index => do
    let _ ← nameOf index
    pure index

end Interface

end Sockets
