import Sockets.Engine.Client
import Sockets.Engine.Server

/-!
# Handshakes

A side sends what it has to say, reads what has come, and answers it, until the handshake is at its
end. To bring it there the other side would have to prove that it holds a key, which nothing that
was written down beforehand can do; so where the other side is such a script a handshake ends with a
fault, and what is to be settled is which.

## Main definitions

* `Sockets.Engine.Handshake.Side` — a side.
* `Sockets.Engine.Handshake.send` — send what a side has to say.
* `Sockets.Engine.Handshake.receive` — read what has come.
* `Sockets.Engine.Handshake.run` — the talk of a side.
* `Sockets.Engine.Handshake.client`, `Sockets.Engine.Handshake.server` — the talks of both sides.
-/

set_option autoImplicit false

namespace Sockets

open Tls

namespace Engine

namespace Handshake

/-- A side of a connection. -/
structure Side (σ : Type) where
  dialogue : Dialogue σ
  /-- The room for octets that have come in. -/
  room : Nat := 0
  /-- Whether octets have been sent since the side last had to wait. -/
  hasSent : Bool := false
  /-- Whether octets have been received since the side last had to wait. -/
  hasReceived : Bool := false
  deriving Inhabited

/-- How a step of a side ends. -/
inductive Step (σ : Type) where
  | goOn (side : Side σ)
  /-- The side has to wait. -/
  | wait (side : Side σ)

variable {σ : Type}

/-- A talk that ends with a fault. -/
def stop (f : Fault) : Talk := .ended (.error f)

/-- The error number of a call that would have to wait. -/
def again : Int := 11

/-- The error number of a call that was interrupted. -/
def interrupted : Int := 4

/-! ## Sending -/

/-- Send octets, in at most `fuel` calls. The talk goes on from what is left of them, whether any
were sent, and the error number that stopped it. -/
def sendWithin (next : Bytes → Bool → Option Int → Talk) : Nat → Bytes → Bool → Talk
  | 0, bs, sent => next bs sent none
  | fuel + 1, bs, sent =>
    if bs = [] then next [] sent none
    else .send bs fun answer => match answer with
      | .error n => next bs sent (some n)
      | .ok count => sendWithin next fuel (bs.drop count) (sent || count ≠ 0)

/-- Send what a side has to say. -/
def send (s : Side σ) (next : Step σ → Talk) : Talk :=
  sendWithin (fun rest sent error =>
    let s := { s with dialogue := { s.dialogue with output := rest }, hasSent := sent }
    match error with
    | none => next (.goOn s)
    | some n => if n = again then next (.wait s) else stop (.os n))
    s.dialogue.output.length s.dialogue.output s.hasSent

/-! ## Receiving -/

/-- The most octets that are kept; more of them while messages are put together. -/
def roomLimit (active : Bool) : Nat := if active then 0xFFFF else 18437

/-- The octets that a side would like to read at once. -/
def readLength : Nat := 4096

/-- The room that a side makes to read more, if it may make any. -/
def room? (room used : Nat) (active : Bool) : Option Nat :=
  let most := roomLimit active
  if most ≤ used then none
  else
    let wanted := min most (used + readLength)
    some (if room < wanted ∨ used = 0 ∨ most < room then wanted else room)

/-- What a side that has no room left says. -/
def full : Fault := .custom .invalidData "message buffer full"

/-- Read what has come. -/
def receive (s : Side σ) (next : Step σ → Talk) : Talk :=
  let inbound := s.dialogue.inbound
  match room? s.room inbound.used inbound.isActive with
  | none => stop full
  | some size =>
    let s := { s with room := size }
    .receive (size - inbound.used) fun answer => match answer with
      | .error n =>
        if n = interrupted then next (.goOn s)
        else if n = again then next (.wait s)
        else stop (.os n)
      | .ok got =>
        if got.data = [] then stop (.plain .unexpectedEof)
        else next (.goOn
          { s with
            dialogue := { s.dialogue with inbound := inbound.receive got.data }
            hasReceived := true })

/-! ## Answering -/

/-- Say the last words of a side that gives up, whether or not they arrive. -/
def giveUp (output : Bytes) (f : Failure) : Talk :=
  let words := output ++ (f.reply.map Record.alert).getD []
  let last := stop f.fault.toFault
  if words = [] then last else .send words fun _ => last

/-- Answer what has come. -/
def reply (answer : Content → Turn σ Unit) (s : Side σ) (next : Side σ → Talk) : Talk :=
  let (result, d) := s.dialogue.converse answer
  match result with
  | .ok () => next { s with dialogue := d }
  | .error (.failure f) => giveUp d.output f
  | .error (.question chain f) => .verify chain fun verdict => giveUp d.output (f verdict)

/-! ## Handshakes -/

/-- Wait, if that is of any use: a side that has got nowhere since it last had to wait gives up. -/
def await (s : Side σ) (gotOn : Bool) (next : Side σ → Talk) : Talk :=
  if gotOn then next { s with hasSent := false, hasReceived := false } else stop (.os again)

/-- Send, read and answer once. -/
def step (answer : Content → Turn σ Unit) (s : Side σ) (next : Side σ → Talk) : Talk :=
  send s fun
    | .wait s => await s s.hasSent next
    | .goOn s => receive s fun
      | .wait s => await s s.hasReceived next
      | .goOn s => reply answer s next

/-- The talk of a side, of at most `fuel` steps. -/
def runWithin (answer : Content → Turn σ Unit) : Nat → Side σ → Talk
  | 0, _ => stop (.plain .unexpectedEof)
  | fuel + 1, s => step answer s (runWithin answer fuel)

/-- The steps after which a side loses patience; nothing that is written down beforehand takes as
many. -/
def patience : Nat := 1048576

/-- The talk of a side. -/
def run (answer : Content → Turn σ Unit) (d : Dialogue σ) : Talk :=
  runWithin answer patience { dialogue := d }

/-- The talk of a client, which speaks first. -/
def client (name : ServerName) : Talk :=
  run (Client.answer name) { phase := .hello, output := Offer.octets name }

/-- The talk of a server. -/
def server (own : Identity) : Talk := run (Server.answer own) { phase := .hello none }

end Handshake

end Engine

end Sockets
