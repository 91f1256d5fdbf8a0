import Sockets.Engine.Record

/-!
# What comes in

Octets of the other side come as they please. They are taken apart into records, and the records of
the handshake are put together again to messages, which begin and end where they please too.

## Main definitions

* `Sockets.Engine.Gate` — whether records have to be encrypted.
* `Sockets.Engine.Inbound` — what has come in and was not handed on yet.
* `Sockets.Engine.Inbound.next` — the next thing to be handed on.
-/

set_option autoImplicit false

namespace Sockets

namespace Engine

/-- Whether records have to be encrypted. -/
inductive Gate where
  | clear
  /-- They have to be; records that cannot be decrypted may be skipped up to so many octets. -/
  | encrypted (skippable : Option Nat)
  deriving DecidableEq, Repr, Inhabited

namespace Gate

/-- Whether a record may come as it is where others are encrypted. In the newest version that is so
for alerts too, as long as they can be nothing else. -/
def isBare (newest : Bool) (r : Record) : Bool :=
  r.content == .changeCipherSpec ||
    (newest && r.content == .alert && decide (r.body.length ≤ 2))

/-- The octets that may still be skipped behind some that are, if these may be. -/
def skip? (count : Nat) (skippable : Option Nat) : Option Nat :=
  skippable.bind fun most => if count ≤ most then some (most - count) else none

/-- The first record that passes a gate, what lies behind it, and the gate behind it. A record that
is encrypted cannot be decrypted here, because nobody knows the keys. -/
def pass (newest : Bool) (gate : Gate) (bs : Bytes) :
    Except Objection (Option (Record × Bytes) × Gate) :=
  match _h : Record.first? bs with
  | .error m => .error (.corrupt m)
  | .ok none => .ok (none, gate)
  | .ok (some (r, rest)) =>
    match gate with
    | .clear => .ok (some (r, rest), gate)
    | .encrypted skippable =>
      if isBare newest r then .ok (some (r, rest), gate)
      else match skip? r.body.length skippable with
        | some left => pass newest (.encrypted (some left)) rest
        | none => .error .undecryptable
termination_by bs.length
decreasing_by exact Record.length_rest _h

end Gate

/-- What has come in and was not handed on yet. -/
structure Inbound where
  /-- Octets that were not taken apart yet. -/
  pending : Bytes := []
  /-- Messages that are complete, each with the version of the record that it began in. -/
  ready : List (Nat × Bytes) := []
  /-- The beginning of a message, with the version of its record. -/
  started : Option (Nat × Bytes) := none
  /-- The octets of records that were taken apart into messages which are still here. -/
  held : Nat := 0
  /-- The records without a content that came one behind the other. -/
  emptyRecords : Nat := 0
  deriving DecidableEq, Repr, Inhabited

namespace Inbound

/-- What is handed on. -/
inductive Item where
  /-- A message of the handshake, with the version of its record. -/
  | message (version : Nat) (octets : Bytes)
  /-- A record of another kind. -/
  | record (record : Record)
  deriving DecidableEq, Repr, Inhabited

/-! ## Messages -/

/-- The octets in front of the content of a message. -/
def frontLength : Nat := 4

/-- The count of octets that a message announces. -/
def announced (bs : Bytes) : Nat := Bytes.bigValue ((bs.take frontLength).drop 1)

/-- Whether octets begin with a complete message. -/
def isComplete (bs : Bytes) : Bool :=
  decide (frontLength ≤ bs.length ∧ frontLength + announced bs ≤ bs.length)

/-- The messages that octets are, and the beginning of another. -/
def messages (bs : Bytes) : List Bytes × Bytes :=
  if _h : isComplete bs then
    let size := frontLength + announced bs
    let (others, rest) := messages (bs.drop size)
    (bs.take size :: others, rest)
  else ([], bs)
termination_by bs.length
decreasing_by
  have complete := of_decide_eq_true _h
  simp only [frontLength] at complete
  simp only [List.length_drop, frontLength]
  omega

/-- The count of octets that no message may announce more than. -/
def messageLimit : Nat := 0xFFFF

/-- Whether octets begin with a message that announces too many octets. -/
def isTooLarge (bs : Bytes) : Bool :=
  frontLength ≤ bs.length && decide (messageLimit < announced bs)

/-! ## Handing on -/

/-- Whether messages or the beginning of one are here. -/
def isActive (i : Inbound) : Bool := i.ready ≠ [] || i.started.isSome

/-- Whether no message has begun without coming to its end. -/
def isAligned (i : Inbound) : Bool := i.started.isNone

/-- The octets that take up room. -/
def used (i : Inbound) : Nat := i.pending.length + i.held

/-- More octets have come in. -/
def receive (i : Inbound) (bs : Bytes) : Inbound := { i with pending := i.pending ++ bs }

/-- The first of the complete messages, and what remains; the last message frees all room. -/
def take? (i : Inbound) : Option (Item × Inbound) :=
  match i.ready with
  | [] => none
  | (version, octets) :: rest =>
    let last := rest = [] ∧ i.started.isNone
    some (.message version octets, { i with ready := rest, held := if last then 0 else i.held })

/-- Put the content of a record behind the beginning of a message. -/
def feed (i : Inbound) (r : Record) (count : Nat) : Except Objection Inbound :=
  let (version, before) := i.started.getD (r.version, [])
  let (complete, rest) := messages (before ++ r.body)
  if (rest :: complete).any isTooLarge then .error (.corrupt .messageTooLarge)
  else .ok { i with
    ready := complete.map fun octets => (version, octets)
    started := if rest = [] then none else some (version, rest)
    held := i.held + count }

/-- The records without a content that may come one behind the other. -/
def emptyLimit : Nat := 10

/-- Count a record if it is without a content. -/
def countEmpty (i : Inbound) (r : Record) : Except Objection Inbound :=
  if r.body ≠ [] then .ok { i with emptyRecords := 0 }
  else if emptyLimit ≤ i.emptyRecords then .error (.misconduct .emptyRecords)
  else .ok { i with emptyRecords := i.emptyRecords + 1 }

/-- The next thing to be handed on, if there is one yet, in at most `fuel` records. -/
def nextWithin (newest : Bool) : Nat → Gate → Inbound →
    Except Objection (Option Item × Gate × Inbound)
  | 0, gate, i => .ok (none, gate, i)
  | fuel + 1, gate, i =>
    match i.take? with
    | some (item, i) => .ok (some item, gate, i)
    | none => do
      match ← gate.pass newest i.pending with
      | (none, gate) => pure (none, gate, i)
      | (some (r, rest), gate) =>
        if r.content ≠ .handshake ∧ i.started.isSome then throw (.misconduct .interleaved)
        else
          let count := i.pending.length - rest.length
          let i ← ({ i with pending := rest } : Inbound).countEmpty r
          if r.content ≠ .handshake then pure (some (.record r), gate, i)
          else
            let i ← i.feed r count
            nextWithin newest fuel gate i

/-- The next thing to be handed on, if there is one yet. -/
def next (newest : Bool) (gate : Gate) (i : Inbound) :
    Except Objection (Option Item × Gate × Inbound) :=
  nextWithin newest (i.pending.length + 1) gate i

end Inbound

end Engine

end Sockets
