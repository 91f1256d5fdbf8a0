import Sockets.Address.Text

/-!
# Ends of a connection

A handle keeps the addresses of both ends of its connection. The host text and the port of an
address are worked out when they are first asked for and remembered until the address changes.

## Main definitions

* `Sockets.Endpoint` — an address and what is remembered of it.
* `Sockets.Endpoint.host`, `Sockets.Endpoint.port` — its host text and port, and the end that
  remembers them.
* `Sockets.Endpoint.Faithful` — what is remembered is what the address gives.

## Main results

* `Sockets.Endpoint.host_eq`, `Sockets.Endpoint.port_eq` — a faithful end answers from its
  address.
-/

set_option autoImplicit false

namespace Sockets

/-- One end of a connection: its address, if it is known, and what is remembered of it. -/
structure Endpoint where
  address : Option Address := none
  hostMemo : Option (Option String) := none
  portMemo : Option (Option UInt16) := none
  deriving DecidableEq, Repr, Inhabited

namespace Endpoint

/-- The end at an address, of which nothing is remembered yet. -/
def ofAddress (a : Address) : Endpoint := { address := some a }

/-- The host text of the address, worked out now. -/
def hostNow (e : Endpoint) : Option String := e.address.bind Address.host?

/-- The port of the address, worked out now. -/
def portNow (e : Endpoint) : Option UInt16 := e.address.bind Address.port?

/-- The host text, and the end that remembers it. -/
def host (e : Endpoint) : Option String × Endpoint :=
  match e.hostMemo with
  | some text => (text, e)
  | none => (e.hostNow, { e with hostMemo := some e.hostNow })

/-- The port, and the end that remembers it. -/
def port (e : Endpoint) : Option UInt16 × Endpoint :=
  match e.portMemo with
  | some port => (port, e)
  | none => (e.portNow, { e with portMemo := some e.portNow })

/-- The end with its host text forgotten. -/
def forgetHost (e : Endpoint) : Endpoint := { e with hostMemo := none }

/-- What is remembered of an end is what its address gives. -/
def Faithful (e : Endpoint) : Prop :=
  (∀ text, e.hostMemo = some text → text = e.hostNow) ∧
    ∀ port, e.portMemo = some port → port = e.portNow

/-- An end of which nothing is remembered is faithful. -/
theorem faithful_ofAddress (a : Address) : (Endpoint.ofAddress a).Faithful := by
  constructor <;> simp [Endpoint.ofAddress]

/-- A faithful end answers the host text of its address. -/
theorem host_eq {e : Endpoint} (h : e.Faithful) : e.host.1 = e.hostNow := by
  unfold host
  split
  · rename_i text htext
    exact h.1 text htext
  · rfl

/-- A faithful end answers the port of its address. -/
theorem port_eq {e : Endpoint} (h : e.Faithful) : e.port.1 = e.portNow := by
  unfold port
  split
  · rename_i port hport
    exact h.2 port hport
  · rfl

/-- Asking for the host text keeps an end faithful. -/
theorem faithful_host {e : Endpoint} (h : e.Faithful) : e.host.2.Faithful := by
  unfold host
  split
  · exact h
  · constructor
    · intro text htext
      simp only [Option.some.injEq] at htext
      exact htext.symm
    · exact h.2

/-- Asking for the port keeps an end faithful. -/
theorem faithful_port {e : Endpoint} (h : e.Faithful) : e.port.2.Faithful := by
  unfold port
  split
  · exact h
  · constructor
    · exact h.1
    · intro port hport
      simp only [Option.some.injEq] at hport
      exact hport.symm

end Endpoint

end Sockets
