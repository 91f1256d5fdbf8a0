import Sockets.Bytes

/-!
# Digests

The digests of the SHA-2 family. A message is padded to whole blocks of sixteen words, and each
block is mixed into a state of eight words. The members of the family differ in the size of
their words, in the distances of the rotations and in where they start. The constants are
fractional parts of square and cube roots of the first primes, and are computed from these.

## Main definitions

* `Sockets.Crypto.Digest` — a member of the family.
* `Sockets.Crypto.Digest.hash` — the digest of a message.
-/

set_option autoImplicit false

namespace Sockets

namespace Crypto

/-! ## Constants -/

namespace Root

/-- Whether a number is prime. -/
def isPrime (n : Nat) : Bool :=
  2 ≤ n && (List.range n).all fun d => d < 2 || n % d != 0

/-- The primes that constants are made from, of which there are eighty. -/
def primes : List Nat := (List.range 410).filter isPrime

/-- The largest number below the given power of two whose `k`-th power is at most `target`. -/
def floorRoot (k target : Nat) : Nat → Nat
  | 0 => 0
  | bits + 1 => go 0 bits
where
  /-- The root, of which `found` is known and the lower bits are open. -/
  go (found : Nat) : Nat → Nat
    | 0 => if (found + 1) ^ k ≤ target then found + 1 else found
    | bit + 1 =>
      let higher := found + (1 <<< (bit + 1))
      if higher ^ k ≤ target then go higher bit else go found bit

/-- The first `width` bits of the fractional part of the `k`-th root of a number below 512. -/
def fraction (k width n : Nat) : Nat :=
  floorRoot k (n <<< (k * width)) (width + 9) % (1 <<< width)

end Root

/-- A member of the family. -/
inductive Digest where
  | sha256
  | sha384
  | sha512
  deriving DecidableEq, Repr, Inhabited

namespace Digest

/-- The bits of a word. -/
def width : Digest → Nat
  | sha256 => 32
  | sha384 | sha512 => 64

/-- The octets of a digest. -/
def length : Digest → Nat
  | sha256 => 32
  | sha384 => 48
  | sha512 => 64

/-- The octets of a word. -/
def wordLength (d : Digest) : Nat := d.width / 8

/-- The octets of a block: sixteen words. -/
def blockLength (d : Digest) : Nat := 16 * d.wordLength

/-- The constants of the rounds, for words of 32 bits. -/
def narrowConstants : List Nat := (Root.primes.take 64).map (Root.fraction 3 32)

/-- The constants of the rounds, for words of 64 bits. -/
def wideConstants : List Nat := Root.primes.map (Root.fraction 3 64)

/-- The constants of the rounds. -/
def constants : Digest → List Nat
  | sha256 => narrowConstants
  | sha384 | sha512 => wideConstants

/-! ## Words -/

/-- A word with what does not fit cut off. -/
def wrap (d : Digest) (n : Nat) : Nat := n % (1 <<< d.width)

/-- A word rotated to the right. -/
def rotate (d : Digest) (x count : Nat) : Nat :=
  (x >>> count) ||| d.wrap (x <<< (d.width - count))

/-- A word mixed from three rotations of another. -/
def mixThree (d : Digest) (x a b c : Nat) : Nat := d.rotate x a ^^^ d.rotate x b ^^^ d.rotate x c

/-- A word mixed from two rotations and a shift of another. -/
def mixShift (d : Digest) (x a b c : Nat) : Nat := d.rotate x a ^^^ d.rotate x b ^^^ (x >>> c)

/-- The mixture of the first word of a state. -/
def mixFirst (d : Digest) (x : Nat) : Nat :=
  if d.width = 32 then d.mixThree x 2 13 22 else d.mixThree x 28 34 39

/-- The mixture of the fifth word of a state. -/
def mixFifth (d : Digest) (x : Nat) : Nat :=
  if d.width = 32 then d.mixThree x 6 11 25 else d.mixThree x 14 18 41

/-- The mixture of the older word that a schedule goes on with. -/
def mixOlder (d : Digest) (x : Nat) : Nat :=
  if d.width = 32 then d.mixShift x 7 18 3 else d.mixShift x 1 8 7

/-- The mixture of the newer word that a schedule goes on with. -/
def mixNewer (d : Digest) (x : Nat) : Nat :=
  if d.width = 32 then d.mixShift x 17 19 10 else d.mixShift x 19 61 6

/-! ## Blocks -/

/-- A state of eight words. -/
structure State where
  a : Nat
  b : Nat
  c : Nat
  d : Nat
  e : Nat
  f : Nat
  g : Nat
  h : Nat
  deriving DecidableEq, Repr, Inhabited

namespace State

/-- The state of eight words in order. -/
def ofList : List Nat → State
  | [a, b, c, d, e, f, g, h] => ⟨a, b, c, d, e, f, g, h⟩
  | _ => ⟨0, 0, 0, 0, 0, 0, 0, 0⟩

/-- The words of a state in order. -/
def toList (s : State) : List Nat := [s.a, s.b, s.c, s.d, s.e, s.f, s.g, s.h]

end State

/-- The state that a digest starts from: the first eight primes, or the eight after them. -/
def startOf : Digest → State
  | sha256 => .ofList ((Root.primes.take 8).map (Root.fraction 2 32))
  | sha384 => .ofList (((Root.primes.drop 8).take 8).map (Root.fraction 2 64))
  | sha512 => .ofList ((Root.primes.take 8).map (Root.fraction 2 64))

/-- One round with a constant and a word of the schedule. -/
def roundStep (m : Digest) (s : State) (constant word : Nat) : State :=
  let choice := (s.e &&& s.f) ^^^ ((s.e ^^^ ((1 <<< m.width) - 1)) &&& s.g)
  let majority := (s.a &&& s.b) ^^^ (s.a &&& s.c) ^^^ (s.b &&& s.c)
  let first := s.h + m.mixFifth s.e + choice + constant + word
  let second := m.mixFirst s.a + majority
  ⟨m.wrap (first + second), s.a, s.b, s.c, m.wrap (s.d + first), s.e, s.f, s.g⟩

/-- The word behind the sixteen latest words of a schedule. -/
def nextWord (m : Digest) (latest : List Nat) : Nat :=
  m.wrap (m.mixNewer (latest.getD 14 0) + latest.getD 9 0 + m.mixOlder (latest.getD 1 0) +
    latest.getD 0 0)

/-- The rounds with the given constants; `latest` holds the next sixteen words. -/
def rounds (m : Digest) (s : State) (latest : List Nat) : List Nat → State
  | [] => s
  | constant :: rest =>
    rounds m (m.roundStep s constant (latest.getD 0 0)) (latest.drop 1 ++ [m.nextWord latest]) rest

/-- The state after a block of sixteen words. -/
def mixBlock (m : Digest) (s : State) (words : List Nat) : State :=
  let mixed := m.rounds s words m.constants
  .ofList ((s.toList.zip mixed.toList).map fun (x, y) => m.wrap (x + y))

/-! ## Messages -/

/-- The groups of `size` octets that octets consist of, as numbers. -/
def groups (size : Nat) (bs : Bytes) : List Nat :=
  if 0 < size ∧ size ≤ bs.length then
    Bytes.bigValue (bs.take size) :: groups size (bs.drop size)
  else []
termination_by bs.length
decreasing_by
  rw [List.length_drop]
  omega

/-- The zero octets between a message and its length. -/
def paddingLength (d : Digest) (n : Nat) : Nat :=
  (d.blockLength - (n + 1 + 2 * d.wordLength) % d.blockLength) % d.blockLength

/-- A message with its padding: one bit, zeros, and the length in bits. -/
def pad (d : Digest) (message : Bytes) : Bytes :=
  message ++ 0x80 :: (List.replicate (d.paddingLength message.length) 0 ++
    (Bytes.littleEndian (2 * d.wordLength) (8 * message.length)).reverse)

/-- The state after all blocks of words. -/
def mixAll (m : Digest) (s : State) (words : List Nat) : State :=
  if words.length < 16 then s else mixAll m (m.mixBlock s (words.take 16)) (words.drop 16)
termination_by words.length
decreasing_by
  rw [List.length_drop]
  omega

/-- The octets of a state. -/
def octets (d : Digest) (s : State) : Bytes :=
  s.toList.flatMap fun x => (Bytes.littleEndian d.wordLength x).reverse

/-- The digest of a message. -/
def hash (d : Digest) (message : Bytes) : Bytes :=
  (d.octets (d.mixAll d.startOf (groups d.wordLength (d.pad message)))).take d.length

end Digest

end Crypto

end Sockets
