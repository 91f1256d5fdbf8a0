/-!
# Octets

Sequences of octets as the rest of the library handles them: as lists, so that what a socket
queues and what a header packs can be reasoned about by recursion on the data.

## Main definitions

* `Sockets.Bytes` — a sequence of octets.
* `Sockets.Bytes.hex`, `Sockets.Bytes.ofHex?` — the lower-case hexadecimal text of a sequence
  and its reading.
* `Sockets.Bytes.littleEndian`, `Sockets.Bytes.littleValue` — a number as a given count of
  octets, least significant first, and the number such octets stand for.
* `Sockets.Bytes.bigValue` — the number octets stand for, most significant first.
* `Sockets.Bytes.capacity` — how many numbers a count of octets tells apart.

## Main results

* `Sockets.Bytes.littleValue_littleEndian` — a number below their capacity survives `k`
  octets.
-/

set_option autoImplicit false

namespace Sockets

/-- A sequence of octets. -/
abbrev Bytes := List UInt8

namespace Bytes

/-! ## Hexadecimal text -/

/-- The lower-case hexadecimal digit of a number below sixteen. -/
def hexDigit (n : Nat) : Char :=
  if n < 10 then Char.ofNat (48 + n) else Char.ofNat (87 + n)

/-- The value of a hexadecimal digit of either case. -/
def hexValue? (c : Char) : Option Nat :=
  if '0' ≤ c ∧ c ≤ '9' then some (c.toNat - 48)
  else if 'a' ≤ c ∧ c ≤ 'f' then some (c.toNat - 87)
  else if 'A' ≤ c ∧ c ≤ 'F' then some (c.toNat - 55)
  else none

/-- A hexadecimal digit stands for the number it was made from. -/
theorem hexValue?_hexDigit : ∀ n < 16, hexValue? (hexDigit n) = some n := by decide

/-- The two hexadecimal digits of an octet, high half first. -/
def hexOctet (b : UInt8) : List Char :=
  [hexDigit (b.toNat / 16), hexDigit (b.toNat % 16)]

/-- The lower-case hexadecimal text of octets, two digits each. -/
def hexChars (bs : Bytes) : List Char := bs.flatMap hexOctet

/-- The lower-case hexadecimal text of octets as a string. -/
def hex (bs : Bytes) : String := String.ofList (hexChars bs)

/-- The octets that hexadecimal digits stand for, two digits each. -/
def ofHexChars? : List Char → Option Bytes
  | [] => some []
  | [_] => none
  | h :: l :: rest => do
    let hi ← hexValue? h
    let lo ← hexValue? l
    let bs ← ofHexChars? rest
    pure (UInt8.ofNat (16 * hi + lo) :: bs)

/-- The octets that a hexadecimal text stands for. -/
def ofHex? (s : String) : Option Bytes := ofHexChars? s.toList

/-! ## Numbers in a fixed count of octets -/

/-- The `k` least significant octets of `n`, least significant first. -/
def littleEndian : Nat → Nat → Bytes
  | 0, _ => []
  | k + 1, n => UInt8.ofNat n :: littleEndian k (n / 256)

/-- The number that octets stand for, least significant first. -/
def littleValue : Bytes → Nat
  | [] => 0
  | b :: bs => b.toNat + 256 * littleValue bs

/-- The number that octets stand for, most significant first. -/
def bigValue (bs : Bytes) : Nat := bs.foldl (fun n b => 256 * n + b.toNat) 0

/-- How many numbers a count of octets tells apart. -/
def capacity : Nat → Nat
  | 0 => 1
  | k + 1 => 256 * capacity k

@[simp] theorem length_littleEndian (k n : Nat) : (littleEndian k n).length = k := by
  induction k generalizing n with
  | zero => rfl
  | succ k ih => simp [littleEndian, ih]

/-- Octets stand for a number below their capacity. -/
theorem littleValue_lt (bs : Bytes) : littleValue bs < capacity bs.length := by
  induction bs with
  | nil => decide
  | cons b bs ih =>
    have hb : b.toNat < 256 := b.toNat_lt
    rw [littleValue, List.length_cons, capacity]
    omega

/-- A number below the capacity of `k` octets is read back from them. -/
theorem littleValue_littleEndian (k n : Nat) (h : n < capacity k) :
    littleValue (littleEndian k n) = n := by
  induction k generalizing n with
  | zero =>
    rw [capacity] at h
    rw [littleEndian, littleValue]
    omega
  | succ k ih =>
    have hq : n / 256 < capacity k := Nat.div_lt_of_lt_mul h
    rw [littleEndian, littleValue, ih _ hq, UInt8.toNat_ofNat']
    omega

/-- Octets are the octets of the number they stand for. -/
theorem littleEndian_littleValue (bs : Bytes) :
    littleEndian bs.length (littleValue bs) = bs := by
  induction bs with
  | nil => rfl
  | cons b bs ih =>
    have hb : b.toNat < 256 := b.toNat_lt
    have hdiv : (b.toNat + 256 * littleValue bs) / 256 = littleValue bs := by omega
    have hmod : UInt8.ofNat (b.toNat + 256 * littleValue bs) = b := by
      apply UInt8.toNat_inj.mp
      rw [UInt8.toNat_ofNat']
      omega
    rw [List.length_cons, littleValue, littleEndian, hdiv, hmod, ih]

end Bytes

end Sockets
