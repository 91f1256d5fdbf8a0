import Sockets.Address.Basic
import Sockets.Error

/-!
# Queries for addresses

Opening a socket by host and service starts with a query. Its answer is a list of candidates, in
the order in which they are to be tried, or the reason why there are none.

## Main definitions

* `Sockets.Hints` — what a query asks for beside host and service.
* `Sockets.Query` — a host, a service and hints.
* `Sockets.Candidate` — one address to try, and the kind of socket to try it with.
-/

set_option autoImplicit false

namespace Sockets

/-- What a query asks for beside host and service. -/
structure Hints where
  family : Option Family := none
  type : Option SocketType := none
  protocol : Option Int := none
  /-- Whether the addresses are for listening. -/
  passive : Bool := false
  deriving DecidableEq, Repr, Inhabited

namespace Hints

/-- Hints for a socket of a transport that connects. -/
def active (p : Protocol) (family : Option Family) : Hints :=
  ⟨family, p.socketType?, p.number?, false⟩

/-- Hints for a socket of a transport that listens. -/
def listening (p : Protocol) (family : Option Family) : Hints :=
  ⟨family, p.socketType?, p.number?, true⟩

/-- The text of hints in the journal. -/
def text (h : Hints) : String :=
  "family=" ++ (h.family.map Family.label).getD "-" ++
    " socktype=" ++ (h.type.map SocketType.text).getD "-" ++
    " protocol=" ++ (h.protocol.map toString).getD "-" ++
    " passive=" ++ (if h.passive then "true" else "false")

end Hints

/-- A query for addresses. -/
structure Query where
  host : Option String
  service : Option String
  hints : Hints
  deriving DecidableEq, Repr, Inhabited

namespace Query

/-- A part of a query in the journal: in single quotes, or a dash if it is missing. -/
def part : Option String → String
  | none => "-"
  | some s => "'" ++ s ++ "'"

/-- The text of a query in the journal. -/
def text (q : Query) : String :=
  "resolve " ++ part q.host ++ " " ++ part q.service ++ " " ++ q.hints.text

end Query

/-- One address to try, and the kind of socket to try it with. -/
structure Candidate where
  family : Family
  type : SocketType
  protocol : Option Int
  address : Address
  deriving DecidableEq, Repr, Inhabited

namespace Candidate

/-- The text of a candidate. -/
def text (c : Candidate) : String :=
  c.family.label ++ " " ++ c.type.text ++ " " ++ (c.protocol.map toString).getD "-" ++ " " ++
    c.address.text

end Candidate

end Sockets
