import Sockets.Bytes
import Sockets.Engine.Crypto.Modular

/-!
# Curves

Curves `y² = x³ - 3x + b` over a prime field, with a point that generates a group of prime order.
Points are computed with in three coordinates `(x, y, z)`, which stand for `(x / z², y / z³)`, and
for the neutral point where `z` is zero; so only the last step divides.

## Main definitions

* `Sockets.Crypto.Curve` — a curve, with `Sockets.Crypto.Curve.p256` and
  `Sockets.Crypto.Curve.p384`.
* `Sockets.Crypto.Curve.multiply` — the multiple of a point.
* `Sockets.Crypto.Curve.pointOf?` — the point that octets are.
-/

set_option autoImplicit false

namespace Sockets

namespace Crypto

/-- A curve, and the point that generates the group. -/
structure Curve where
  /-- The octets of a coordinate. -/
  size : Nat
  /-- The prime of the field. -/
  field : Nat
  constant : Nat
  generator : Nat × Nat
  /-- The prime order of the group. -/
  order : Nat
  deriving DecidableEq, Repr, Inhabited

/-- A point in three coordinates. -/
structure Point where
  x : Nat
  y : Nat
  z : Nat
  deriving DecidableEq, Repr, Inhabited

namespace Curve

/-- The curve over a field of 256 bits. -/
def p256 : Curve where
  size := 32
  field := 0xffffffff00000001000000000000000000000000ffffffffffffffffffffffff
  constant := 0x5ac635d8aa3a93e7b3ebbd55769886bc651d06b0cc53b0f63bce3c3e27d2604b
  generator := (
    0x6b17d1f2e12c4247f8bce6e563a440f277037d812deb33a0f4a13945d898c296,
    0x4fe342e2fe1a7f9b8ee7eb4a7c0f9e162bce33576b315ececbb6406837bf51f5)
  order := 0xffffffff00000000ffffffffffffffffbce6faada7179e84f3b9cac2fc632551

/-- The curve over a field of 384 bits. -/
def p384 : Curve where
  size := 48
  field := 0xfffffffffffffffffffffffffffffffffffffffffffffffffffffffffffffffeffffffff0000000000000000ffffffff
  constant := 0xb3312fa7e23ee7e4988e056be3f82d19181d9c6efe8141120314088f5013875ac656398d8a2ed19d2a85c8edd3ec2aef
  generator := (
    0xaa87ca22be8b05378eb1c71ef320ad746e1d3b628ba79b9859f741e082542a385502f25dbf55296c3a545e3872760ab7,
    0x3617de4a96262c6f5d9e98bf9292dc29f8f41dbd289a147ce9da3113b5f0b8c00a60b1ce1d7e819d7a431d7c90ea0e5f)
  order := 0xffffffffffffffffffffffffffffffffffffffffffffffffc7634d81f4372ddf581a0db248b0a77aecec196accc52973

/-! ## The group -/

/-- The neutral point. -/
def neutral : Point := ⟨1, 1, 0⟩

/-- The point of two coordinates. -/
def ofPair (p : Nat × Nat) : Point := ⟨p.1, p.2, 1⟩

/-- The sum of a point and itself. -/
def double (c : Curve) (p : Point) : Point :=
  if p.z = 0 ∨ p.y = 0 then neutral
  else
    let m := c.field
    let squareY := p.y * p.y % m
    let squareZ := p.z * p.z % m
    let s := 4 * p.x * squareY % m
    let slope := 3 * Modular.difference m p.x squareZ * (p.x + squareZ) % m
    let x := Modular.difference m (slope * slope) (2 * s)
    ⟨x, Modular.difference m (slope * Modular.difference m s x) (8 * squareY * squareY),
      2 * p.y * p.z % m⟩

/-- The sum of two points. -/
def add (c : Curve) (p q : Point) : Point :=
  if p.z = 0 then q
  else if q.z = 0 then p
  else
    let m := c.field
    let squareP := p.z * p.z % m
    let squareQ := q.z * q.z % m
    let xP := p.x * squareQ % m
    let xQ := q.x * squareP % m
    let yP := p.y * (squareQ * q.z % m) % m
    let yQ := q.y * (squareP * p.z % m) % m
    if xP = xQ then
      if yP = yQ then c.double p else neutral
    else
      let run := Modular.difference m xQ xP
      let rise := Modular.difference m yQ yP
      let squareRun := run * run % m
      let cubeRun := squareRun * run % m
      let v := xP * squareRun % m
      let x := Modular.difference m (rise * rise) (cubeRun + 2 * v)
      ⟨x, Modular.difference m (rise * Modular.difference m v x) (yP * cubeRun),
        run * (p.z * q.z % m) % m⟩

/-- The multiple of a point, by doubling. -/
def multiply (c : Curve) (k : Nat) (p : Point) : Point :=
  if k = 0 then neutral
  else
    let even := c.double (c.multiply (k / 2) p)
    if k % 2 = 1 then c.add even p else even
termination_by k
decreasing_by omega

/-- The two coordinates of a point other than the neutral one. -/
def pair? (c : Curve) (p : Point) : Option (Nat × Nat) :=
  if p.z = 0 then none
  else
    let m := c.field
    let inverse := Modular.inverse m p.z
    let square := inverse * inverse % m
    some (p.x * square % m, p.y * (square * inverse % m) % m)

/-! ## Octets -/

/-- Whether two coordinates are those of a point of the curve. -/
def contains (c : Curve) (p : Nat × Nat) : Bool :=
  p.1 < c.field && p.2 < c.field &&
    p.2 * p.2 % c.field == (p.1 * p.1 * p.1 + (c.field - 3) * p.1 + c.constant) % c.field

/-- A number as the octets of a coordinate. -/
def coordinate (c : Curve) (n : Nat) : Bytes := (Bytes.littleEndian c.size n).reverse

/-- The octets of a point: the mark that both coordinates follow, and these. -/
def octets (c : Curve) (p : Nat × Nat) : Bytes := 4 :: (c.coordinate p.1 ++ c.coordinate p.2)

/-- The point that octets are, if they are one. -/
def pointOf? (c : Curve) (bs : Bytes) : Option (Nat × Nat) :=
  match bs with
  | 4 :: rest =>
    if rest.length = 2 * c.size then
      let p := (Bytes.bigValue (rest.take c.size), Bytes.bigValue (rest.drop c.size))
      if c.contains p then some p else none
    else none
  | _ => none

/-- The octets of the public key that belongs to a secret number. -/
def publicKey? (c : Curve) (secret : Nat) : Option Bytes :=
  (c.pair? (c.multiply secret (ofPair c.generator))).map c.octets

end Curve

end Crypto

end Sockets
