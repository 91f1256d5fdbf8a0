import Sockets.Engine.Crypto.Modular
import Sockets.Engine.Crypto.Sha2

/-!
# Signatures over the twisted curve

The curve `y² - x² = 1 + d x² y²` over the field of the prime `2²⁵⁵ - 19`, with signatures that
are a point and a number. A point is written as its second coordinate and the lowest bit of the
first.

## Main definitions

* `Sockets.Crypto.Edwards.publicKey` — the public key of a secret of 32 octets.
* `Sockets.Crypto.Edwards.verifies` — whether octets are a signature of a message.
* `Sockets.Crypto.Edwards.isUsableShare` — whether octets can be agreed on a secret with.
-/

set_option autoImplicit false

namespace Sockets

namespace Crypto

namespace Edwards

/-- The prime of the field. -/
def field : Nat := (1 <<< 255) - 19

/-- The order of the group that the base point generates. -/
def order : Nat := (1 <<< 252) + 27742317777372353535851937790883648493

/-- The constant of the curve. -/
def constant : Nat := (field - 121665) * Modular.inverse field 121666 % field

/-- A square root of minus one. -/
def rootOfMinusOne : Nat := Modular.power field 2 ((field - 1) / 4)

/-- A point by the coordinates `x / z` and `y / z`, and `t`, which is `x y / z`. -/
structure Point where
  x : Nat
  y : Nat
  z : Nat
  t : Nat
  deriving DecidableEq, Repr, Inhabited

/-- The neutral point. -/
def neutral : Point := ⟨0, 1, 1, 0⟩

/-- The sum of two points. -/
def add (p q : Point) : Point :=
  let m := field
  let a := Modular.difference m p.y p.x * Modular.difference m q.y q.x % m
  let b := (p.y + p.x) * (q.y + q.x) % m
  let c := 2 * constant * p.t * q.t % m
  let d := 2 * p.z * q.z % m
  let e := Modular.difference m b a
  let f := Modular.difference m d c
  let g := (d + c) % m
  let h := (b + a) % m
  ⟨e * f % m, g * h % m, f * g % m, e * h % m⟩

/-- The multiple of a point, by doubling. -/
def multiply (k : Nat) (p : Point) : Point :=
  if k = 0 then neutral
  else
    let half := multiply (k / 2) p
    let even := add half half
    if k % 2 = 1 then add even p else even
termination_by k
decreasing_by omega

/-- The point of two coordinates. -/
def ofPair (x y : Nat) : Point := ⟨x, y, 1, x * y % field⟩

/-- The opposite of a point. -/
def negate (p : Point) : Point :=
  ⟨Modular.difference field 0 p.x, p.y, p.z, Modular.difference field 0 p.t⟩

/-- The first coordinate that belongs to a second, with the given lowest bit. -/
def abscissa? (y lowest : Nat) : Option Nat :=
  let m := field
  let numerator := Modular.difference m (y * y) 1
  let denominator := (constant * (y * y % m) + 1) % m
  let square := numerator * Modular.inverse m denominator % m
  let root := Modular.power m square ((m + 3) / 8)
  let found :=
    if root * root % m = square then some root
    else
      let other := root * rootOfMinusOne % m
      if other * other % m = square then some other else none
  found.map fun x => if x % 2 = lowest then x else Modular.difference m 0 x

/-- The point that 32 octets are, if they are one. -/
def pointOf? (bs : Bytes) : Option Point :=
  if bs.length = 32 then
    let n := Bytes.littleValue bs
    let y := n % (1 <<< 255) % field
    (abscissa? y (n >>> 255)).map fun x => ofPair x y
  else none

/-- The octets of a point. -/
def encode (p : Point) : Bytes :=
  let inverse := Modular.inverse field p.z
  let x := p.x * inverse % field
  Bytes.littleEndian 32 (p.y * inverse % field + (x % 2) <<< 255)

/-- The point that generates the group: its second coordinate is four fifths. -/
def base : Point :=
  let y := 4 * Modular.inverse field 5 % field
  ofPair ((abscissa? y 0).getD 0) y

/-- The number that a secret multiplies the base point by: some of its bits are fixed. -/
def clamp (bs : Bytes) : Nat :=
  let n := Bytes.littleValue bs % (1 <<< 254)
  n - n % 8 + (1 <<< 254)

/-- The public key of a secret of 32 octets. -/
def publicKey (secret : Bytes) : Bytes :=
  encode (multiply (clamp ((Digest.sha512.hash secret).take 32)) base)

/-- Whether octets are a signature of a message. -/
def verifies (key message signature : Bytes) : Bool :=
  match pointOf? key with
  | none => false
  | some p =>
    let commitment := signature.take 32
    let response := Bytes.littleValue (signature.drop 32)
    let challenge := Bytes.littleValue (Digest.sha512.hash (commitment ++ (key ++ message)))
    signature.length = 64 && response < order &&
      encode (add (multiply response base) (multiply (challenge % order) (negate p))) == commitment

/-! ## Agreement -/

/-- The coordinates of the points of small order on the other form of the curve. -/
def smallOrder : List Nat := [
  0, 1, field - 1,
  325606250916557431795983626356110631294008115727848805560023387167927233504,
  39382357235489614581723060781553021112529911719440698176882885853963445705823]

/-- Whether octets can be agreed on a secret with: they are 32, and not a point of small order. -/
def isUsableShare (bs : Bytes) : Bool :=
  bs.length = 32 && !smallOrder.contains (Bytes.littleValue bs % (1 <<< 255) % field)

end Edwards

end Crypto

end Sockets
