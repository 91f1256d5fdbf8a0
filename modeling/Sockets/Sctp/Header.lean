import Sockets.Kernel.Call

/-!
# Headers of SCTP messages

A message of SCTP travels with a header as side data: thirty-two octets, each number with its
least significant octet first, and two octets of padding behind the first three.

## Main definitions

* `Sockets.Sctp.Header` — the fields of a header.
* `Sockets.Sctp.Header.encode`, `Sockets.Sctp.Header.decode` — the octets of a header and their
  reading.
* `Sockets.Sctp.Header.control` — the side data that carries a header.
* `Sockets.Sctp.Header.find?` — the header in the side data of a received message.

## Main results

* `Sockets.Sctp.Header.length_encode` — a header takes up thirty-two octets.
-/

set_option autoImplicit false

namespace Sockets

namespace Sctp

/-- The header of a message. -/
structure Header where
  stream : UInt16 := 0
  ssn : UInt16 := 0
  flags : UInt16 := 0
  ppid : UInt32 := 0
  context : UInt32 := 0
  timeToLive : UInt32 := 0
  tsn : UInt32 := 0
  cumTsn : UInt32 := 0
  assocId : Int32 := 0
  deriving DecidableEq, Repr, Inhabited

/-- The level of side data that belongs to SCTP. -/
def level : Int := 132

/-- The type of side data that is a header. -/
def headerType : Int := 1

/-- The octets of a header. -/
def headerLength : Nat := 32

namespace Header

/-- The octets of a header. -/
def encode (h : Header) : Bytes :=
  Bytes.littleEndian 2 h.stream.toNat ++ (Bytes.littleEndian 2 h.ssn.toNat ++
  (Bytes.littleEndian 2 h.flags.toNat ++ (Bytes.littleEndian 2 0 ++
  (Bytes.littleEndian 4 h.ppid.toNat ++ (Bytes.littleEndian 4 h.context.toNat ++
  (Bytes.littleEndian 4 h.timeToLive.toNat ++ (Bytes.littleEndian 4 h.tsn.toNat ++
  (Bytes.littleEndian 4 h.cumTsn.toNat ++ Bytes.littleEndian 4 h.assocId.toUInt32.toNat))))))))

/-- A header takes up thirty-two octets. -/
@[simp] theorem length_encode (h : Header) : h.encode.length = headerLength := by
  simp [encode, headerLength]

/-- The number in the octets from `start` on, `count` of them. -/
def field (bs : Bytes) (start count : Nat) : Nat := Bytes.littleValue ((bs.drop start).take count)

/-- The header that octets are; octets that are missing count as zero. -/
def decode (bs : Bytes) : Header where
  stream := UInt16.ofNat (field bs 0 2)
  ssn := UInt16.ofNat (field bs 2 2)
  flags := UInt16.ofNat (field bs 4 2)
  ppid := UInt32.ofNat (field bs 8 4)
  context := UInt32.ofNat (field bs 12 4)
  timeToLive := UInt32.ofNat (field bs 16 4)
  tsn := UInt32.ofNat (field bs 20 4)
  cumTsn := UInt32.ofNat (field bs 24 4)
  assocId := (UInt32.ofNat (field bs 28 4)).toInt32

/-- The side data that carries a header. -/
def control (h : Header) : ControlMessage := ⟨level, headerType, h.encode⟩

/-! ## Side data of a received message -/

/-- The zeros that fill the data of side data up to a whole count of eight octets. -/
def filling (n : Nat) : Bytes := List.replicate ((n + 7) / 8 * 8 - n) 0

/-- The unsigned word with the bits of a number of either sign. -/
def wordOf (n : Int) : UInt32 := UInt32.ofInt n

/-- The octets of side data in a control buffer: its length, level, type and data. -/
def layout (m : ControlMessage) : Bytes :=
  Bytes.littleEndian 8 (16 + m.data.length) ++
    (Bytes.littleEndian 4 (wordOf m.level).toNat ++
      (Bytes.littleEndian 4 (wordOf m.type).toNat ++ (m.data ++ filling m.data.length)))

/-- The octets of a control buffer from the data of side data on: the data, and what lies behind
it. Behind the last side data the buffer holds zeros. -/
def bufferFrom (m : ControlMessage) (rest : List ControlMessage) : Bytes :=
  m.data ++ (filling m.data.length ++ rest.flatMap layout)

/-- Whether side data is a header, by its level and type. -/
def isHeader (m : ControlMessage) : Bool := m.level = level && m.type = headerType

/-- The header in the side data of a received message: of the first that is one, the octets of
the control buffer from its data on. -/
def find? : List ControlMessage → Option Header
  | [] => none
  | m :: rest =>
    if isHeader m then some (decode ((bufferFrom m rest).take headerLength)) else find? rest

end Header

end Sctp

end Sockets
