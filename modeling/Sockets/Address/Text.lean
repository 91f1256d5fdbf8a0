import Sockets.Address.Basic
import Sockets.Ip.Parser
import Sockets.Ip.Printer
import Sockets.Text.Utf8

/-!
# Host text of addresses

An address has a host text: the text of its internet address, in which a carried four-octet
address stands for itself, or the name of a local socket, an abstract name behind an `@`. The
other way round, a literal or a path gives an address.

## Main definitions

* `Sockets.Address.host?` — the host text of an address.
* `Sockets.Address.describe` — host and port together, as messages show them.
* `Sockets.Address.parse` — the address of a host text and a port.
-/

set_option autoImplicit false

namespace Sockets

open Text

namespace Address

/-- The host text of the name of a local socket: a path without the zero octet behind it, an
abstract name behind an `@`, and words for a socket without a name. -/
def nameText : Bytes → String
  | [] => "(no pathname bound)"
  | b :: rest => if b = 0 then "@" ++ Utf8.lossy rest else Utf8.lossy (b :: rest).dropLast

/-- The host text of an address; addresses of other families have none. -/
def host? : Address → Option String
  | inet ip _ => some (Ip.hostText (.v4 ip))
  | inet6 ip .. => some (Ip.hostText (.v6 ip))
  | unix name => some (nameText name)
  | other _ | absent => none

/-- An address in a message: its host text and port, with brackets around a host text of eight
groups. -/
def describe (a : Address) : String :=
  let host := a.host?.getD "<unknown>"
  match a with
  | inet _ port => host ++ ":" ++ toString port.toNat
  | inet6 _ port _ _ =>
    if host.toList.contains '.' then host ++ ":" ++ toString port.toNat
    else "[" ++ host ++ "]:" ++ toString port.toNat
  | _ => host

/-- Why a text gives no address. -/
inductive ParseFailure where
  | unknownForm
  | pathTooLong
  deriving DecidableEq, Repr

/-- Whether a text is a path: one from the root, or one from the current directory. -/
def isPath (host : String) : Bool :=
  match host.toList with
  | '/' :: _ => true
  | '.' :: '/' :: _ => true
  | _ => false

/-- The address of a host text and a port: a literal, in brackets or not, at that port, or else
the path of a local socket. -/
def parse (host : String) (port : UInt16) : Except ParseFailure Address :=
  match Ip.literal? host with
  | some ip => .ok (ofIp ip port)
  | none =>
    if isPath host then
      match unixPath? (Utf8.encode host) with
      | some a => .ok a
      | none => .error .pathTooLong
    else .error .unknownForm

end Address

end Sockets
