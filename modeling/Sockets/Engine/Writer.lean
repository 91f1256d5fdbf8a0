import Sockets.Engine.Record

/-!
# Writing messages

The octets of messages: numbers of a fixed count of octets, contents behind their length, and
messages in records. Octets that are drawn at random are zero here.

## Main definitions

* `Sockets.Engine.Writer.number`, `Sockets.Engine.Writer.counted` — numbers, and octets behind the
  count of them.
* `Sockets.Engine.Writer.message` — a message of the handshake.
* `Sockets.Engine.Writer.record` — a message in a record.
-/

set_option autoImplicit false

namespace Sockets

namespace Engine

namespace Writer

/-- A number in a count of octets, most significant first. -/
def number (count n : Nat) : Bytes := (Bytes.littleEndian count n).reverse

/-- Octets behind their count, which takes up `size` octets. -/
def counted (size : Nat) (bs : Bytes) : Bytes := number size bs.length ++ bs

/-- Numbers of two octets each, behind the count of their octets. -/
def pairs (ns : List Nat) : Bytes := counted 2 (ns.flatMap (number 2))

/-- An extension. -/
def extension (kind : Nat) (content : Bytes) : Bytes := number 2 kind ++ counted 2 content

/-- Octets that are drawn at random. -/
def random (count : Nat) : Bytes := List.replicate count 0

/-- A message of the handshake. -/
def message (kind : HandshakeType) (content : Bytes) : Bytes := kind :: counted 3 content

/-- A message in a record of its own. -/
def record (kind : HandshakeType) (content : Bytes) : Bytes :=
  Record.octets ⟨.handshake, Record.usualVersion, message kind content⟩

/-- The record for the sake of devices on the way, which also announces a change of keys. -/
def change : Bytes := Record.octets ⟨.changeCipherSpec, Record.usualVersion, [1]⟩

end Writer

end Engine

end Sockets
