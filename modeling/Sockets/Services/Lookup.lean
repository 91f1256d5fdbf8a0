import Sockets.Text.Utf8
import Sockets.World

/-!
# Looking services up

The services database is read when a service is first looked up. If that fails the table stays
empty, which is recorded once; the well-known services are still found.

## Main definitions

* `Sockets.ServiceBook.table` — the table of a database, or why there is none.
* `Sockets.Net.servicePort?` — the port of a service under a transport.

## Main results

* `Sockets.Net.servicePort?_of_read` — once the table is read, looking up changes nothing.
-/

set_option autoImplicit false

namespace Sockets

open Text

/-- The table of a database, or why there is none. -/
def ServiceBook.table (content : FileContent) : Except Fault (List ServiceEntry) :=
  match content with
  | .refused n => .error (.os n)
  | .octets bs =>
    match Utf8.decode? bs with
    | some text => .ok (ServiceEntry.table text)
    | none => .error (.custom .invalidData "stream did not contain valid UTF-8")

namespace Net

/-- The table of services, read now if it has not been read before. -/
def serviceTable : Net (List ServiceEntry) := do
  match (← get).services with
  | .read table => pure table
  | .unread content =>
    let table ← match ServiceBook.table content with
      | .ok table => pure table
      | .error e => do
        record .debug ("services database /etc/services unavailable: " ++ e.message)
        pure []
    modify fun w => { w with services := .read table }
    pure table

/-- The port of a service under a transport. -/
def servicePort? (name protocol : String) : Net (Option UInt16) := do
  let table ← serviceTable
  pure (ServiceEntry.port? table name protocol)

/-- Once the table is read, looking up changes nothing. -/
theorem servicePort?_of_read (name protocol : String) (w : World) (table : List ServiceEntry)
    (h : w.services = .read table) :
    servicePort? name protocol w = (ServiceEntry.port? table name protocol, w) := by
  have hs : serviceTable w = (table, w) := by
    simp only [serviceTable, bind, StateT.bind, get, getThe, MonadStateOf.get, StateT.get, pure,
      h]
    rfl
  simp only [servicePort?, bind, StateT.bind, hs]
  rfl

end Net

end Sockets
