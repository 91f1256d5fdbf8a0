import Sockets.Engine.Crypto.Curve
import Sockets.Engine.Crypto.Edwards

/-!
# Groups

The two sides agree on keys by each sending an element of a group that both know.

## Main definitions

* `Sockets.Engine.Group` — the groups that are known.
* `Sockets.Engine.Group.ofNumber?` — the group of a number.
* `Sockets.Engine.Group.accepts` — whether octets are an element to agree on keys with.
-/

set_option autoImplicit false

namespace Sockets

open Crypto

namespace Engine

/-- The groups that are known. -/
inductive Group where
  | x25519
  | p256
  | p384
  deriving DecidableEq, Repr, Inhabited

namespace Group

/-- The number of a group. -/
def number : Group → Nat
  | x25519 => 0x001D
  | p256 => 0x0017
  | p384 => 0x0018

/-- The groups that are known, best first. -/
def known : List Group := [x25519, p256, p384]

/-- The group of a number. -/
def ofNumber? (n : Nat) : Option Group := known.find? fun g => g.number == n

/-- Whether octets are an element to agree on keys with. -/
def accepts (g : Group) (element : Bytes) : Bool :=
  match g with
  | x25519 => Edwards.isUsableShare element
  | p256 => (Curve.p256.pointOf? element).isSome
  | p384 => (Curve.p384.pointOf? element).isSome

end Group

end Engine

end Sockets
