import Sockets.Bytes

/-!
# Base64

Four characters of the alphabet stand for three octets. Characters are taken in blocks of eight,
blanks between them are skipped, and padding is read only where the text may end.

## Main definitions

* `Sockets.Engine.Base64.decode` — the octets that a text in base64 stands for.
-/

set_option autoImplicit false

namespace Sockets

namespace Engine

namespace Base64

/-- Why a text is not base64. -/
inductive Fault where
  | invalidCharacter (b : UInt8)
  | prematurePadding
  | invalidTrailingPadding
  deriving DecidableEq, Repr, Inhabited

/-- The text of a fault. -/
def Fault.message : Fault → String
  | invalidCharacter b => "InvalidCharacter(" ++ toString b.toNat ++ ")"
  | prematurePadding => "PrematurePadding"
  | invalidTrailingPadding => "InvalidTrailingPadding"

/-- The value of a character of the alphabet. -/
def value? (b : UInt8) : Option Nat :=
  let n := b.toNat
  if 65 ≤ n ∧ n ≤ 90 then some (n - 65)
  else if 97 ≤ n ∧ n ≤ 122 then some (n - 71)
  else if 48 ≤ n ∧ n ≤ 57 then some (n + 4)
  else if n = 43 then some 62
  else if n = 47 then some 63
  else none

/-- Whether a character is skipped. -/
def isSkipped (b : UInt8) : Bool := (9 ≤ b.toNat && b.toNat ≤ 13) || b.toNat == 32

/-- The padding character. -/
def padding : UInt8 := 61

/-- The three octets of four values. -/
def quad (a b c d : Nat) : Bytes :=
  let n := ((a * 64 + b) * 64 + c) * 64 + d
  [UInt8.ofNat (n / 65536), UInt8.ofNat (n / 256), UInt8.ofNat n]

/-- The octets of the last characters, at most four of them. Padding has no value. -/
def finish : List (Option Nat) → Except Fault Bytes
  | [] => .ok []
  | [some a, some b, some c, some d] => .ok (quad a b c d)
  | [some a, some b, some c, none] | [some a, some b, some c] => .ok ((quad a b c 0).take 2)
  | [some a, some b, none, none] | [some a, some b] => .ok ((quad a b 0 0).take 1)
  | _ => .error .invalidTrailingPadding

/-- The octets of a block that ends the text. -/
def lastBlock : List (Option Nat) → Except Fault Bytes
  | some a :: some b :: some c :: some d :: e :: rest => do
    let bs ← finish (e :: rest)
    pure (quad a b c d ++ bs)
  | _ :: _ :: _ :: _ :: _ :: _ => .error .prematurePadding
  | block => finish block

/-- The octets of a block of eight that more characters follow. -/
def fullBlock : List (Option Nat) → Except Fault Bytes
  | [some a, some b, some c, some d, some e, some f, some g, some h] =>
    .ok (quad a b c d ++ quad e f g h)
  | _ => .error .prematurePadding

/-- The octets of a text, `block` being the characters of its current block. -/
def decodeFrom (block : List (Option Nat)) : Bytes → Except Fault Bytes
  | [] => lastBlock block
  | b :: bs =>
    if isSkipped b then decodeFrom block bs
    else
      let next : Except Fault (Option Nat) :=
        if b = padding then .ok none
        else match value? b with
          | some v => .ok (some v)
          | none => .error (.invalidCharacter b)
      match next with
      | .error e => .error e
      | .ok v =>
        if block.length = 8 then
          match fullBlock block with
          | .error e => .error e
          | .ok front => (decodeFrom [v] bs).map (front ++ ·)
        else decodeFrom (block ++ [v]) bs

/-- The octets that a text in base64 stands for. -/
def decode (text : Bytes) : Except Fault Bytes := decodeFrom [] text

end Base64

end Engine

end Sockets
