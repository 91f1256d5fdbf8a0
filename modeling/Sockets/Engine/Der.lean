import Sockets.Bytes

/-!
# Distinguished encoding

Certificates and keys are values in the distinguished encoding: each value is a tag, the length
of its content in the shortest form, and the content, which for a sequence is more values.

## Main definitions

* `Sockets.Engine.Der.Value` — a tag and its content.
* `Sockets.Engine.Der.value?` — the value that octets begin with, and what lies behind it.
* `Sockets.Engine.Der.Reading` — a reader of values one behind the other.
* `Sockets.Engine.Der.write` — the octets of a value.
-/

set_option autoImplicit false

namespace Sockets

namespace Engine

namespace Der

/-- A tag and its content. -/
structure Value where
  tag : UInt8
  content : Bytes
  deriving DecidableEq, Repr, Inhabited

/-- The length that octets begin with, in its shortest form, and what lies behind it. -/
def length? : Bytes → Option (Nat × Bytes)
  | [] => none
  | b :: rest =>
    let n := b.toNat
    if n < 128 then some (n, rest)
    else
      let count := n - 128
      if count = 0 ∨ 4 < count ∨ rest.length < count then none
      else
        let value := Bytes.bigValue (rest.take count)
        if value < 128 ∨ value < Bytes.capacity (count - 1) then none
        else some (value, rest.drop count)

/-- The length that contents have to stay below. -/
def lengthLimit : Nat := 65535

/-- Whether a tag is one of the long tags, which do not occur. -/
def isLongTag (tag : UInt8) : Bool := tag.toNat % 32 == 31

/-- The value that octets begin with, and what lies behind it. -/
def value? : Bytes → Option (Value × Bytes)
  | [] => none
  | tag :: bs => do
    let (n, rest) ← length? bs
    if isLongTag tag || lengthLimit ≤ n || rest.length < n then none
    else some (⟨tag, rest.take n⟩, rest.drop n)

/-! ## Tags -/

/-- The tag of a truth value. -/
def booleanTag : UInt8 := 0x01

/-- The tag of a whole number. -/
def integerTag : UInt8 := 0x02

/-- The tag of a string of bits. -/
def bitStringTag : UInt8 := 0x03

/-- The tag of a string of octets. -/
def octetStringTag : UInt8 := 0x04

/-- The tag of a name of a kind of thing. -/
def identifierTag : UInt8 := 0x06

/-- The tag of a time with two digits for the year. -/
def shortTimeTag : UInt8 := 0x17

/-- The tag of a time with four digits for the year. -/
def timeTag : UInt8 := 0x18

/-- The tag of a sequence of values. -/
def sequenceTag : UInt8 := 0x30

/-- The tag of part `n` of a value, which has parts of its own. -/
def partTag (n : Nat) : UInt8 := UInt8.ofNat (0xA0 + n)

/-! ## Readers -/

/-- A reader of values one behind the other, with the faults that it may find. -/
abbrev Reading (ε : Type) := StateT Bytes (Except ε)

section Reading

variable {ε α : Type}

/-- Give up. -/
def give (e : ε) : Reading ε α := fun _ => .error e

/-- Whether no values are left. -/
def atEnd : Reading ε Bool := fun bs => .ok (bs == [], bs)

/-- Whether the next value has a tag. -/
def isNext (tag : UInt8) : Reading ε Bool := fun bs => .ok (bs.head? == some tag, bs)

/-- The next value. -/
def next (e : ε) : Reading ε Value := fun bs =>
  match value? bs with
  | some (v, rest) => .ok (v, rest)
  | none => .error e

/-- The content of the next value, which has to have a tag. -/
def content (e : ε) (tag : UInt8) : Reading ε Bytes := do
  let v ← next e
  if v.tag = tag then pure v.content else give e

/-- Read octets to the last; what is left over is a fault. -/
def whole (e : ε) (bs : Bytes) (item : Reading ε α) : Except ε α :=
  match item.run bs with
  | .ok (a, []) => .ok a
  | .ok _ => .error e
  | .error f => .error f

/-- Read the content of the next value, which has to have a tag, to the last. -/
def nested (e : ε) (tag : UInt8) (item : Reading ε α) : Reading ε α := do
  let bs ← content e tag
  (fun outer => (whole e bs item).map fun a => (a, outer) : Reading ε α)

/-- The octets of a string of bits, of which all are used; `partly` is the fault otherwise. -/
def wholeOctets (e partly : ε) (tag : UInt8) : Reading ε Bytes := do
  match ← content e tag with
  | 0 :: bs => pure bs
  | _ => give partly

/-- The number that the content of a whole number is, if that is not negative and has the shortest
form. -/
def natural? : Bytes → Option Nat
  | [] => none
  | [b] => if b.toNat < 128 then some b.toNat else none
  | 0 :: b :: bs => if b.toNat < 128 then none else some (Bytes.bigValue (b :: bs))
  | b :: bs => if b.toNat < 128 then some (Bytes.bigValue (b :: bs)) else none

/-- A whole number that is not negative. -/
def natural (e : ε) : Reading ε Nat := do
  match natural? (← content e integerTag) with
  | some n => pure n
  | none => give e

/-- A whole number of one octet that is not negative. -/
def octet (e : ε) : Reading ε Nat := do
  let n ← natural e
  if n < 256 then pure n else give e

/-- The truth value that an octet is; `neither` is the fault otherwise. -/
def truthOctet (neither : ε) : Reading ε Bool := fun bs =>
  match bs with
  | 0xFF :: rest => .ok (true, rest)
  | 0x00 :: rest => .ok (false, rest)
  | _ => .error neither

/-- A truth value, which is false where it is left out; `neither` is the fault if it is there and
is none. -/
def truth (e neither : ε) : Reading ε Bool := do
  if ← isNext booleanTag then nested e booleanTag (truthOctet neither) else pure false

/-- Values up to the end, of which there are at most `fuel`. -/
def manyWithin (item : Reading ε α) : Nat → Reading ε (List α)
  | 0 => pure []
  | fuel + 1 => do
    if ← atEnd then pure []
    else
      let a ← item
      let others ← manyWithin item fuel
      pure (a :: others)

end Reading

/-! ## Writing -/

/-- A length in its shortest form, in at most three octets. -/
def writeLength (n : Nat) : Bytes :=
  if n < 128 then [UInt8.ofNat n]
  else if n < 256 then [0x81, UInt8.ofNat n]
  else [0x82, UInt8.ofNat (n / 256), UInt8.ofNat n]

/-- The octets of a value. -/
def write (tag : UInt8) (content : Bytes) : Bytes := tag :: (writeLength content.length ++ content)

/-- A whole number in its shortest form. -/
def writeNatural (size n : Nat) : Bytes :=
  let bs := (Bytes.littleEndian (size + 1) n).reverse.dropWhile (· == 0)
  write integerTag (match bs with
    | [] => [0]
    | b :: _ => if b.toNat < 128 then bs else 0 :: bs)

end Der

end Engine

end Sockets
