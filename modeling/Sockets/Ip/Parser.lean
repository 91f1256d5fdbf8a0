import Sockets.Ip.Basic
import Sockets.Text.Decimal
import Sockets.Text.Fields

/-!
# Reading internet addresses

A dotted quad is four decimal octets without leading zeros. An address of eight groups is written
with groups of one to four hexadecimal digits between colons; the last two groups may be a dotted
quad, and one `::` may stand for at least one zero group. Nothing else is read: no zone, no
blank, no shorter quad.

## Main definitions

* `Sockets.Ipv4.ofChars?`, `Sockets.Ipv6.ofChars?`, `Sockets.Ip.ofChars?` — the address that a
  text is.
* `Sockets.Ipv6.groupsOf?` — the groups between colons, a dotted quad at the end counting two.
-/

set_option autoImplicit false

namespace Sockets

open Text

namespace Ipv4

/-- The address that a dotted quad is. -/
def ofChars? (cs : List Char) : Option Ipv4 :=
  match splitAll '.' cs with
  | [a, b, c, d] => do
    let a ← Decimal.octet? a
    let b ← Decimal.octet? b
    let c ← Decimal.octet? c
    let d ← Decimal.octet? d
    pure ⟨a, b, c, d⟩
  | _ => none

end Ipv4

namespace Ipv6

/-- The number read when the hexadecimal digits of `cs` follow those of `n`. -/
def hexFrom? (n : Nat) : List Char → Option Nat
  | [] => some n
  | c :: cs => (Bytes.hexValue? c).bind fun d => hexFrom? (16 * n + d) cs

/-- The group that one to four hexadecimal digits are. -/
def group? (cs : List Char) : Option UInt16 :=
  if 1 ≤ cs.length ∧ cs.length ≤ 4 then (hexFrom? 0 cs).map UInt16.ofNat else none

/-- The groups that pieces of text are; with `quad` the last piece may be a dotted quad, which
gives two groups. -/
def piecesOf? (quad : Bool) : List (List Char) → Option (List UInt16)
  | [] => some []
  | [p] =>
    match group? p with
    | some g => some [g]
    | none =>
      if quad then
        (Ipv4.ofChars? p).map fun v4 => [groupOf v4.a v4.b, groupOf v4.c v4.d]
      else none
  | p :: ps => do
    let g ← group? p
    let gs ← piecesOf? quad ps
    pure (g :: gs)

/-- The groups that a text between colons is; the empty text has none. -/
def groupsOf? (quad : Bool) (cs : List Char) : Option (List UInt16) :=
  if cs = [] then some [] else piecesOf? quad (splitAll ':' cs)

/-- The address that a text is. -/
def ofChars? (cs : List Char) : Option Ipv6 :=
  match cutAt [':', ':'] cs with
  | some (front, back) => do
    let front ← groupsOf? false front
    let back ← groupsOf? true back
    if front.length + back.length ≤ 7 then
      ofGroups? (front ++ List.replicate (8 - (front.length + back.length)) 0 ++ back)
    else none
  | none => (groupsOf? true cs).bind ofGroups?

end Ipv6

namespace Ip

/-- The address that a text is. -/
def ofChars? (cs : List Char) : Option Ip :=
  match Ipv4.ofChars? cs with
  | some ip => some (v4 ip)
  | none => (Ipv6.ofChars? cs).map v6

/-- The address that a host text is, with at most one pair of brackets around it. -/
def literal? (host : String) : Option Ip := ofChars? (unbracket host.toList)

end Ip

end Sockets
