import Sockets.Engine.HandshakeMessage
import Sockets.Engine.Inbound

/-!
# Dialogues

What both sides of a handshake have in common: what came in is handed on piece by piece to the side
that is due to answer. Alerts are dealt with before that, and so are the records that the newest
version only knows for the sake of devices on the way. A side that finds something wrong gives up,
and usually says why.

## Main definitions

* `Sockets.Engine.Dialogue` — the state of a side.
* `Sockets.Engine.Failure` — why a side gives up, and what it says.
* `Sockets.Engine.Break` — how a side breaks off, at once or behind a verdict.
* `Sockets.Engine.Turn` — what a side does about something.
* `Sockets.Engine.Dialogue.converse` — hand on all that came in.
-/

set_option autoImplicit false

namespace Sockets

namespace Engine

/-- Something that a side is due to answer. -/
inductive Content where
  | message (message : HandshakeMessage)
  | changeCipherSpec
  /-- Data of the application, of so many octets. -/
  | data (length : Nat)
  deriving Repr, Inhabited

namespace Content

/-- The kind of a content. -/
def kind : Content → ContentType
  | message _ => .handshake
  | changeCipherSpec => .changeCipherSpec
  | data _ => .applicationData

/-- What is wrong with a content where a message of the handshake was due. -/
def fault (due : List HandshakeType) : Content → Objection
  | message m => .wrongMessage m.kind due
  | c => .wrongContent c.kind .handshake

end Content

/-- Why a side gives up, and the reason that it tells the other side. -/
structure Failure where
  fault : Objection
  reply : Option AlertReason
  deriving DecidableEq, Repr, Inhabited

/-- To give up for a fault, and say why in the usual way. -/
def Failure.ofFault (f : Objection) : Failure := ⟨f, f.reply?⟩

/-- How a side breaks off. A verdict on the certificates of the other side may be due first; but
whatever that is, there is a reason to give up behind it. -/
inductive Break where
  | failure (f : Failure)
  | question (chain : List Bytes) (next : Except TlsFault Unit → Failure)

/-- The state of a side, which is in some phase of the handshake. -/
structure Dialogue (σ : Type) where
  phase : σ
  inbound : Inbound := {}
  gate : Gate := .clear
  /-- Whether the two sides speak the newest version. -/
  newest : Bool := false
  /-- The warnings that came. -/
  warnings : Nat := 0
  /-- The records that came only for the sake of devices on the way. -/
  changes : Nat := 0
  /-- Octets that were not sent yet. -/
  output : Bytes := []
  deriving Repr, Inhabited

/-- What a side does about something; what it has done before it gives up stays. -/
abbrev Turn (σ α : Type) := ExceptT Break (StateM (Dialogue σ)) α

namespace Turn

variable {σ α : Type}

/-- Give up, and say why in the usual way. -/
def fail (f : Objection) : Turn σ α := throw (.failure (.ofFault f))

/-- Give up without a word. -/
def failSilently (f : Objection) : Turn σ α := throw (.failure ⟨f, none⟩)

/-- Give up for a reason of its own. -/
def failWith (f : Objection) (reply : AlertReason) : Turn σ α := throw (.failure ⟨f, some reply⟩)

/-- Have certificates verified, and give up for a fault if nothing is wrong with them. -/
def verify (chain : List Bytes) (f : Objection) : Turn σ α :=
  throw (.question chain fun verdict => match verdict with
    | .ok () => .ofFault f
    | .error refusal => .ofFault (.verdict refusal))

/-- Go on with what was found, or give up. -/
def ofExcept (found : Except Objection α) : Turn σ α :=
  match found with
  | .ok a => pure a
  | .error f => fail f

/-- Go on to another phase. -/
def become (phase : σ) : Turn σ Unit := modify fun d => { d with phase := phase }

/-- Have octets sent. -/
def send (bs : Bytes) : Turn σ Unit := modify fun d => { d with output := d.output ++ bs }

/-- From here on records have to be encrypted. -/
def encrypted (skippable : Option Nat) : Turn σ Unit :=
  modify fun d => { d with gate := .encrypted skippable }

/-- The two sides agree on a version. -/
def speak (newest : Bool) : Turn σ Unit := modify fun d => { d with newest := newest }

/-- No message may have begun where keys change. -/
def requireAligned : Turn σ Unit := do
  let d ← get
  if d.inbound.isAligned = false then fail (.misconduct .pendingFragment)

/-- Give up if something is not as it should be. -/
def require (ok : Bool) (f : Objection) : Turn σ Unit := if ok then pure () else fail f

end Turn

namespace Dialogue

variable {σ : Type}

/-! ## Alerts -/

/-- The warnings that are put up with. -/
def warningLimit : Nat := 4

/-- Read the content of an alert. -/
def readAlert : Reader Alert := do
  let level ← Reader.number 1 "AlertLevel"
  let reason ← Reader.number 1 "AlertDescription"
  Reader.finish "AlertMessagePayload"
  pure ⟨UInt8.ofNat level, UInt8.ofNat reason⟩

/-- Heed an alert: give up, unless it is a warning. The newest version has no warnings but that the
other side changed its mind. -/
def heed (a : Alert) : Turn σ Unit := do
  let d ← get
  if a.level ≠ Alert.warning ∧ a.level ≠ Alert.fatal then
    Turn.failWith (.alert a.reason) .illegalParameter
  else if a.level = Alert.fatal then Turn.fail (.alert a.reason)
  else if warningLimit ≤ d.warnings then Turn.fail (.misconduct .tooManyWarnings)
  else
    set { d with warnings := d.warnings + 1 }
    if d.newest ∧ a.reason ≠ .userCanceled then
      Turn.failWith (.alert a.reason) .decodeError

/-! ## Changes of keys -/

/-- The records for the sake of devices on the way that are put up with. -/
def changeLimit : Nat := 2

/-- Put up with a record for the sake of devices on the way. -/
def putUpWith (body : Bytes) : Turn σ Unit := do
  let d ← get
  if body ≠ [1] then Turn.fail (.misconduct .illegalChangeCipherSpec)
  else if changeLimit ≤ d.changes then Turn.failSilently (.misconduct .illegalChangeCipherSpec)
  else set { d with changes := d.changes + 1 }

/-- Read the content of a change of keys. -/
def readChange : Reader Unit := do
  let value ← Reader.one
  if value ≠ 1 then Reader.fail .invalidChangeCipherSpec
  else Reader.finish "ChangeCipherSpecPayload"

/-! ## Handing on -/

/-- What to make of a record, unless it was dealt with at once. -/
def ofRecord (r : Record) : Turn σ (Option Content) := do
  let d ← get
  match r.content with
  | .changeCipherSpec =>
    if d.newest then
      putUpWith r.body
      pure none
    else
      let _ ← Turn.ofExcept ((readChange.run r.body).mapError Objection.corrupt)
      pure (some .changeCipherSpec)
  | .alert =>
    let (a, _) ← Turn.ofExcept ((readAlert.run r.body).mapError Objection.corrupt)
    heed a
    pure none
  | .applicationData => pure (some (.data r.body.length))
  | .handshake | .heartbeat => Turn.fail (.corrupt .invalidContentType)

/-- What to make of something that came in, unless it was dealt with at once. -/
def ofItem : Inbound.Item → Turn σ (Option Content)
  | .message version octets => do
    let m ← Turn.ofExcept ((HandshakeMessage.ofOctets version octets).mapError Objection.corrupt)
    pure (some (.message m))
  | .record r => ofRecord r

/-- Hand on what came in, in at most `fuel` pieces. -/
def converseWithin (answer : Content → Turn σ Unit) : Nat → Turn σ Unit
  | 0 => pure ()
  | fuel + 1 => do
    let d ← get
    let (item, gate, inbound) ← Turn.ofExcept (d.inbound.next d.newest d.gate)
    set { d with gate := gate, inbound := inbound }
    match item with
    | none => pure ()
    | some item =>
      match ← ofItem item with
      | none => converseWithin answer fuel
      | some content =>
        answer content
        converseWithin answer fuel

/-- The most pieces that can be handed on. -/
def pieces (d : Dialogue σ) : Nat :=
  let started := (d.inbound.started.map fun s => s.2.length).getD 0
  d.inbound.pending.length + d.inbound.ready.length + started + 1

/-- Hand on all that came in. -/
def converse (answer : Content → Turn σ Unit) (d : Dialogue σ) :
    Except Break Unit × Dialogue σ :=
  (converseWithin answer d.pieces).run.run d

end Dialogue

end Engine

end Sockets
