import Sockets.Ip.Basic
import Sockets.Text.Decimal

/-!
# Writing internet addresses

Four octets are written as a dotted quad. Eight groups are written in hexadecimal without
leading zeros, the first longest run of at least two zero groups as `::`; a mapped address is
written with its dotted quad.

Two texts of an address are in use. `Ip.text` is the full form. `Ip.hostText` writes a carried
four-octet address in place of the address that carries it.

## Main definitions

* `Sockets.Ipv4.chars`, `Sockets.Ipv6.chars`, `Sockets.Ip.chars` — the full form.
* `Sockets.Ipv6.zeroRun` — where the first longest run of zero groups starts, and its length.
* `Sockets.Ip.hostChars` — the form in which a carried address stands for itself.

## Main results

* `Sockets.Ipv6.groups_eq_of_zeroRun` — the groups of an address around its run.
-/

set_option autoImplicit false

namespace Sockets

open Text

namespace Ipv4

/-- The dotted quad of an address. -/
def chars (ip : Ipv4) : List Char :=
  Decimal.octet ip.a ++ '.' :: (Decimal.octet ip.b ++ '.' ::
    (Decimal.octet ip.c ++ '.' :: Decimal.octet ip.d))

/-- The dotted quad of an address as a string. -/
def text (ip : Ipv4) : String := String.ofList ip.chars

end Ipv4

namespace Ipv6

/-- The hexadecimal text of a group, without leading zeros. -/
def groupChars (g : UInt16) : List Char :=
  let n := g.toNat
  if n < 16 then [Bytes.hexDigit n]
  else if n < 256 then [Bytes.hexDigit (n / 16), Bytes.hexDigit (n % 16)]
  else if n < 4096 then
    [Bytes.hexDigit (n / 256), Bytes.hexDigit (n / 16 % 16), Bytes.hexDigit (n % 16)]
  else
    [Bytes.hexDigit (n / 4096), Bytes.hexDigit (n / 256 % 16), Bytes.hexDigit (n / 16 % 16),
      Bytes.hexDigit (n % 16)]

/-- Groups in hexadecimal, separated by colons. -/
def joinGroups : List UInt16 → List Char
  | [] => []
  | [g] => groupChars g
  | g :: gs => groupChars g ++ ':' :: joinGroups gs

/-- The number of zero groups that a list begins with. -/
def leadingZeros : List UInt16 → Nat
  | [] => 0
  | g :: gs => if g = 0 then leadingZeros gs + 1 else 0

/-- A list begins with its leading zeros. -/
theorem eq_replicate_append_of_leadingZeros (gs : List UInt16) :
    gs = List.replicate (leadingZeros gs) 0 ++ gs.drop (leadingZeros gs) := by
  induction gs with
  | nil => rfl
  | cons g gs ih =>
    unfold leadingZeros
    split
    · rename_i h
      subst h
      rw [List.replicate_succ, List.cons_append, List.drop_succ_cons, ← ih]
    · simp

/-- The start and the length of the first longest run of zero groups in a list. -/
def longestZeros : List UInt16 → Nat × Nat
  | [] => (0, 0)
  | g :: gs =>
    let here := leadingZeros (g :: gs)
    let later := longestZeros gs
    if later.2 ≤ here then (0, here) else (later.1 + 1, later.2)

/-- The first longest run of zero groups of an address, if it has at least two of them. -/
def zeroRun (ip : Ipv6) : Option (Nat × Nat) :=
  let run := longestZeros ip.groups
  if 2 ≤ run.2 then some run else none

/-- A list is what stands before its longest run of zeros, the run, and what stands behind. -/
theorem eq_append_of_longestZeros (gs : List UInt16) :
    gs = gs.take (longestZeros gs).1 ++
      (List.replicate (longestZeros gs).2 0 ++
        gs.drop ((longestZeros gs).1 + (longestZeros gs).2)) := by
  induction gs with
  | nil => rfl
  | cons g gs ih =>
    unfold longestZeros
    simp only
    split
    · simpa using eq_replicate_append_of_leadingZeros (g :: gs)
    · have hshift : (longestZeros gs).1 + 1 + (longestZeros gs).2
          = ((longestZeros gs).1 + (longestZeros gs).2) + 1 := by omega
      simp only [List.take_succ_cons, List.cons_append, hshift, List.drop_succ_cons]
      rw [← ih]

/-- The groups of an address are those before its run of zeros, the run, and those behind. -/
theorem groups_eq_of_zeroRun {ip : Ipv6} {start len : Nat} (h : ip.zeroRun = some (start, len)) :
    ip.groups = ip.groups.take start ++
      (List.replicate len 0 ++ ip.groups.drop (start + len)) ∧ 2 ≤ len := by
  unfold zeroRun at h
  simp only at h
  split at h
  · rename_i h2
    simp only [Option.some.injEq] at h
    have := eq_append_of_longestZeros ip.groups
    rw [h] at this h2
    exact ⟨this, h2⟩
  · simp at h

/-- The text of an address whose groups are all written in hexadecimal. -/
def compressed (ip : Ipv6) : List Char :=
  match ip.zeroRun with
  | none => joinGroups ip.groups
  | some (start, len) =>
    joinGroups (ip.groups.take start) ++ ':' :: ':' :: joinGroups (ip.groups.drop (start + len))

/-- The full text of an address. -/
def chars (ip : Ipv6) : List Char :=
  match ip.mapped? with
  | some v4 => ':' :: ':' :: 'f' :: 'f' :: 'f' :: 'f' :: ':' :: v4.chars
  | none => ip.compressed

/-- The full text of an address as a string. -/
def text (ip : Ipv6) : String := String.ofList ip.chars

end Ipv6

namespace Ip

/-- The full text of an address. -/
def chars : Ip → List Char
  | v4 ip => ip.chars
  | v6 ip => ip.chars

/-- The full text of an address as a string. -/
def text (ip : Ip) : String := String.ofList ip.chars

/-- The text of an address in which a carried four-octet address stands for itself. -/
def hostChars (ip : Ip) : List Char := ip.shown.chars

/-- The text of an address in which a carried four-octet address stands for itself, as a
string. -/
def hostText (ip : Ip) : String := String.ofList ip.hostChars

end Ip

end Sockets
