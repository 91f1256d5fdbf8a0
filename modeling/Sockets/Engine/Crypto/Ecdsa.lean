import Sockets.Engine.Crypto.Curve
import Sockets.Engine.Crypto.Sha2

/-!
# Signatures over curves

A signature over a curve is a pair of numbers. It is valid for a digest and a public key if a
point made from all four has the first number as its coordinate.

## Main definitions

* `Sockets.Crypto.Curve.verifies` — whether a pair of numbers is a signature of a message.
-/

set_option autoImplicit false

namespace Sockets

namespace Crypto

namespace Curve

/-- The number that a digest stands for: as many of its leading octets as a coordinate has. -/
def digestValue (c : Curve) (digest : Bytes) : Nat := Bytes.bigValue (digest.take c.size)

/-- Whether `r` and `s` are a signature of a message, made with the secret of a public key. -/
def verifies (c : Curve) (d : Digest) (publicKey message : Bytes) (r s : Nat) : Bool :=
  match c.pointOf? publicKey with
  | none => false
  | some key =>
    if r = 0 ∨ c.order ≤ r ∨ s = 0 ∨ c.order ≤ s then false
    else
      let inverse := Modular.inverse c.order s
      let base :=
        c.multiply (c.digestValue (d.hash message) * inverse % c.order) (ofPair c.generator)
      let own := c.multiply (r * inverse % c.order) (ofPair key)
      match c.pair? (c.add base own) with
      | none => false
      | some (x, _) => x % c.order == r

end Curve

end Crypto

end Sockets
