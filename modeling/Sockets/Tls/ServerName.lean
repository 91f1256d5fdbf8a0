import Sockets.Ip.Printer
import Sockets.Text.Fields
import Sockets.Text.Quoted

/-!
# Server names

A client names the server that it means to reach: by a host name or by an internet address. Which
texts are names is for the encryption library to say. Where a host stands between brackets, what is
between them is the name.

## Main definitions

* `Sockets.Tls.ServerName` — a name of a server.
* `Sockets.Tls.ServerName.bare` — a host without one pair of brackets.
* `Sockets.Tls.ServerName.ofHost` — the name to use for a host, strict or not.

## Main results

* `Sockets.Tls.ServerName.ofHost_strict` — a strict client uses the host or none.
* `Sockets.Tls.ServerName.ofHost_lax_of_strict` — a lax client uses what a strict one would.
-/

set_option autoImplicit false

namespace Sockets

open Text

namespace Tls

/-- A name of a server. -/
inductive ServerName where
  | dns (name : String)
  | ip (address : Ip)
  deriving DecidableEq, Repr, Inhabited

namespace ServerName

/-! ## Hosts -/

/-- A host without one pair of brackets around it. -/
def bare (host : String) : String := String.ofList (unbracket host.toList)

/-- The host whose name stands in for a host that is none, as the path of a local socket. -/
def standIn : String := "localhost"

variable (read : String → Option ServerName)

/-- The name to use for a host. A strict client has none for a host that is no name; another uses
the name that stands in. -/
def ofHost (host : String) (strict : Bool) : Option ServerName :=
  match read (bare host) with
  | some name => some name
  | none => if strict then none else read standIn

/-- A strict client uses the host, or none. -/
theorem ofHost_strict (host : String) : ofHost read host true = read (bare host) := by
  unfold ofHost
  split <;> simp_all

/-- A lax client always has a name, if the name that stands in is one. -/
theorem ofHost_lax_isSome (hread : (read standIn).isSome = true) (host : String) :
    (ofHost read host false).isSome = true := by
  unfold ofHost
  split <;> simp [hread]

/-- A lax client uses the name that a strict one would. -/
theorem ofHost_lax_of_strict {host : String} {name : ServerName}
    (h : ofHost read host true = some name) : ofHost read host false = some name := by
  rw [ofHost_strict] at h
  unfold ofHost
  rw [h]

/-! ## Texts -/

/-- The text of a name. -/
def text : ServerName → String
  | dns name => name
  | ip address => address.text

/-- Octets as a list of numbers. -/
def numbers (bs : Bytes) : String :=
  "[" ++ String.intercalate ", " (bs.map fun b => toString b.toNat) ++ "]"

/-- The description of a name. -/
def description : ServerName → String
  | dns name => "DnsName(" ++ Quoted.text name ++ ")"
  | ip (.v4 a) => "IpAddress(V4(Ipv4Addr(" ++ numbers a.octets ++ ")))"
  | ip (.v6 a) => "IpAddress(V6(Ipv6Addr(" ++ numbers a.octets ++ ")))"

end ServerName

end Tls

end Sockets
